import MeshTelemetry.Node.Admission
import MeshTelemetry.Node.Carriage

/-!
# Relay

The two points at which frames pass a node. Whatever becomes of its telemetry, a frame stays fit to
be sent or delivered. A frame is captured as it leaves and as it arrives.
-/

namespace MeshTelemetry.Node

/-- Prepares a frame for sending; the result is the number of telemetry bytes added to it. -/
def prepareOutgoing (node : Node) (frame : Frame) (origin : TrafficOrigin) : Nat × Node × Frame :=
  let seen := { node with counters.framesSeen := node.counters.framesSeen + 1 }
  if frame.kind.carriesTelemetry then
    let decided := (seen.applyBudget frame.length origin).2
    if decided.carrier.isSome then
      let (result, embedded, grown) := decided.embed frame
      (result.toOption.getD 0, embedded.capture grown.wire, grown)
    else (0, decided.capture frame.wire, frame)
  else
    let passed :=
      { seen with counters.framesPassedThrough := seen.counters.framesPassedThrough + 1 }
    (0, passed.capture frame.wire, frame)

/-- Takes in a received frame; telemetry that does not decode is lost. -/
def receiveFrame (node : Node) (frame : Frame) (destinedHere : Bool) :
    Option TelemetryContent × Node × Frame :=
  let (result, received, stripped) := (node.capture frame.wire).extract frame destinedHere
  (result.toOption.join, received, stripped)

end MeshTelemetry.Node
