import MeshTelemetry.Capture
import MeshTelemetry.Node.Counters
import MeshTelemetry.Node.Environment
import MeshTelemetry.Storage.RecordStore
import MeshTelemetry.Telemetry.Budget

/-!
# Nodes

A node owns a store of records, the header of the carrier that it has in hand, if any, and its
counters. The records of the carrier are the carrier queue of the store. A recorder, if one is set,
captures the frames that pass.
-/

namespace MeshTelemetry

inductive CarrierState where
  | empty
  | active
  | overflowed
  deriving DecidableEq, Repr

structure Node where
  settings : Settings
  environment : Environment
  store : RecordStore
  carrier : Option TelemetryHeader := none
  counters : Counters := {}
  recorder : Option Recorder := none
  deriving DecidableEq, Repr

namespace Node

/-- A node without a carrier and with empty pools, if the settings are usable. -/
def start (settings : Settings) (environment : Environment) : Except TelemetryError Node := do
  settings.validate
  return {
    settings := settings
    environment := environment
    store := .ofCapacities settings.carrierCapacity settings.consumptionCapacity }

def budget (node : Node) : Budget := .ofSettings node.settings

def state (node : Node) : CarrierState :=
  match node.carrier with
  | none => .empty
  | some header => if header.isOverflowed then .overflowed else .active

def load (node : Node) : Option CarrierLoad :=
  node.carrier.map fun header => ⟨node.store.carrierLength, header.isOverflowed⟩

/-- The records that travel with the carrier, first hop first. -/
def carrierRecords (node : Node) : List Record := node.store.carrierRecords

/-- The number of received records that wait for the application. -/
def pending (node : Node) : Nat := node.store.consumptionLength

def ownRecord? (node : Node) (bitmap : UInt8) (origin : TrafficOrigin) : Option Record :=
  node.environment.ownRecord? node.settings.layout bitmap origin

/-- Marks the carrier, if there is one, as having lost records. -/
def setOverflow (node : Node) : Node :=
  match node.carrier with
  | some header =>
    { node with
      carrier := some header.setOverflowed
      counters.overflowEvents := node.counters.overflowEvents + 1 }
  | none => node

def freeCarrier (node : Node) : Node :=
  { node with carrier := none, store := node.store.clearCarrier.2 }

/-- Captures the frame as it is. A recorder that cannot write loses the frame and nothing else. -/
def capture (node : Node) (frame : Bytes) : Node :=
  { node with recorder := node.recorder.map fun recorder => (recorder.record frame).2 }

end Node

end MeshTelemetry
