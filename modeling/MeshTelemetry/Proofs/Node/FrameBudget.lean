import MeshTelemetry.Proofs.Node.Reachable
import MeshTelemetry.Proofs.Node.Relay

/-!
# A frame stays within the budget

The budget counts records and adds a declared overhead, while the embedding writes bytes. The two
agree because every carried record has exactly the size of the layout, and because the overhead
covers the terminations and the descriptor that are always written. What the overhead claims beyond
those stays free.
-/

namespace MeshTelemetry

namespace Node

/-- The elements around a carrier of the node's layout have a size that the number of records
determines. -/
theorem elements_length_of_mayCarry {settings : Settings} {header : TelemetryHeader}
    {carried : List Record} (h : settings.MayCarry (some header) carried) :
    (TelemetryContent.elements ⟨header, carried⟩).length
      = minElementOverhead + (telemetryHeaderSize + carried.length * settings.recordSize) := by
  rw [TelemetryContent.elements_length, TelemetryContent.encodedLength_of_layout h.layout]
  rfl

end Node

end MeshTelemetry
