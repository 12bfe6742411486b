import MeshTelemetry.Proofs.Node.Consistency
import MeshTelemetry.Proofs.Node.Extension
import MeshTelemetry.Proofs.Node.Upkeep

/-!
# Embedding

An embedding can only fail for want of room. The length of the element has been made sure of when the
settings were checked: a carrier never holds more records than its pool has slots, and a full pool
fits. So the room alone decides, and since the size is reckoned before anything is written and is the
size of what is written, the frame is either grown by all of the elements or left as it was. A fresh
frame has a whole frame's room, which no budget within a frame exceeds.
-/

namespace MeshTelemetry

namespace Frame

/-- The header region has grown into the room by these bytes. No byte in front of them or behind them
is another than before. -/
structure GrownBy (frame grown : Frame) (written : Bytes) : Prop where
  kind : grown.kind = frame.kind
  linkHeader : grown.linkHeader = frame.linkHeader
  room : grown.room + written.length = frame.room
  header : grown.header = written ++ frame.header
  data : grown.data = frame.data
  storage : grown.storage
    = frame.storage.take grown.room ++ written ++ frame.storage.drop frame.room

theorem GrownBy.setHasElements {frame grown : Frame} {written : Bytes}
    (h : frame.GrownBy grown written) (hasElements : Bool) :
    frame.GrownBy (grown.setHasElements hasElements) written := { h with }

end Frame

namespace Node

section

variable {node : Node}

/-- The carrier fits the length field: the settings were checked for a full pool. -/
theorem Invariant.encodedLength_le (h : node.Invariant) (header : TelemetryHeader) :
    TelemetryContent.encodedLength ⟨header, node.carrierRecords⟩ ≤ maxPayloadContent :=
  h.usable.encodedLength_le h.mayCarry.layout h.stores.carrier.length_le

theorem Invariant.elements_length (h : node.Invariant) {header : TelemetryHeader}
    (hheader : node.carrier = some header) :
    (TelemetryContent.elements ⟨header, node.carrierRecords⟩).length
      = 10 + node.carrierRecords.length * node.settings.recordSize := by
  have hcarry := h.mayCarry
  rw [hheader] at hcarry
  rw [elements_length_of_mayCarry hcarry, ← Nat.add_assoc]
  rfl

end

end Node

end MeshTelemetry
