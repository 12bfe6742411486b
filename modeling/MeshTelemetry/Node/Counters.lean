/-!
# What a node has done

A node counts the frames it saw, what became of its carriers and records, and what failed.
-/

namespace MeshTelemetry

structure Counters where
  /-- Outgoing frames. -/
  framesSeen : Nat := 0
  /-- Outgoing frames that were not unicast data. -/
  framesPassedThrough : Nat := 0
  /-- Frames that left with telemetry. -/
  framesEmbedded : Nat := 0
  carriersCreated : Nat := 0
  /-- Carriers taken over from received frames. -/
  carriersReceived : Nat := 0
  /-- Carriers freed because not even their header fitted. -/
  carriersDiscarded : Nat := 0
  /-- Own records added to a carrier. -/
  recordsAdmitted : Nat := 0
  recordsSampledOut : Nat := 0
  recordsNotSelected : Nat := 0
  /-- Carried records dropped to keep the header. -/
  recordsDropped : Nat := 0
  /-- Times this node set the overflow flag. -/
  overflowEvents : Nat := 0
  /-- Records refused by a full pool. -/
  poolExhaustions : Nat := 0
  embedFailures : Nat := 0
  telemetryBytesSent : Nat := 0
  recordsReceived : Nat := 0
  /-- Records handed to the application. -/
  recordsConsumed : Nat := 0
  /-- Received frames whose elements did not decode. -/
  malformedFrames : Nat := 0
  deriving DecidableEq, Repr

namespace Counters

/-- The share of records admitted among those that the draw decided about. -/
def admissionRatio? (counters : Counters) : Option Float :=
  let attempts := counters.recordsAdmitted + counters.recordsSampledOut
  if attempts = 0 then none
  else some (Float.ofNat counters.recordsAdmitted / Float.ofNat attempts)

end Counters

end MeshTelemetry
