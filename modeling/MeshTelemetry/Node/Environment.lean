import MeshTelemetry.Telemetry.Header
import MeshTelemetry.Telemetry.Record

/-!
# What a node knows of its surroundings

Identity, route, radio and time, and the draws that the node's random source will give. The clock
and the slot number wrap. From these facts a node writes the record that reports it.
-/

namespace MeshTelemetry

/-- Where an outgoing frame comes from, as seen from the node. -/
inductive TrafficOrigin where
  | originator
  | forwarder
  deriving DecidableEq, Repr

structure Environment where
  nodeId : UInt16 := 0
  reachable : Bool := true
  rootDistance : UInt16 := 1
  rssi : Int8 := 0
  clock : UInt32 := 0
  slotNumber : UInt64 := 0
  channel : UInt8 := 0
  draws : List Nat := []
  deriving DecidableEq, Repr

namespace Environment

def advance (environment : Environment) (slots : UInt64) (ticks : UInt32) : Environment :=
  { environment with
    slotNumber := environment.slotNumber + slots
    clock := environment.clock + ticks }

/-- The next draw, brought below `bound`; zero once there are no draws left. -/
def drawBelow (environment : Environment) (bound : Nat) : Nat × Environment :=
  if bound = 0 then (0, environment)
  else
    match environment.draws with
    | [] => (0, environment)
    | draw :: draws => (draw % bound, { environment with draws := draws })

/-- The node's own sample. An originator stamps its clock and has heard no frame; a forwarder stamps
the slot number and how strongly it heard the frame. The channel is left to the receiver. -/
def sample (environment : Environment) : TrafficOrigin → Sample
  | .originator => .ofParts environment.nodeId 0 environment.clock.toNat 0
  | .forwarder => .ofParts environment.nodeId 0 environment.slotNumber.toNat environment.rssi

/-- The node's own record, if the bitmap selects the node. -/
def ownRecord? (environment : Environment) (layout : RecordLayout) (bitmap : UInt8)
    (origin : TrafficOrigin) : Option Record :=
  if bitmapSelects bitmap environment.nodeId then
    some <| match layout with
      | .sample => .sample (environment.sample origin)
      | .filler size => .filler (List.replicate size (UInt8.ofNat environment.nodeId.toNat))
  else none

end Environment

end MeshTelemetry
