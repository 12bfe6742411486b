import MeshTelemetry.Message.Encoding
import MeshTelemetry.Node.Basic

/-!
# Delivery

The application takes received records one by one, the newest first, or lets a message carry them
away. A block for a message is made without taking anything; the records are taken once the message
is written.
-/

namespace MeshTelemetry.Node

def nextTelemetry (node : Node) : Option Record × Node :=
  match node.store.popConsumption with
  | (some record, store) =>
    (some record,
      { node with
        store := store
        counters.recordsConsumed := node.counters.recordsConsumed + 1 })
  | (none, store) => (none, { node with store := store })

/-- The newest `count` records one after another, or all if there are fewer. -/
def telemetryBlock (node : Node) (count : Nat) : Bytes :=
  (node.store.consumptionRecords.take count).flatMap Record.encode

/-- Takes up to `count` records and says how many there were. -/
def commitTelemetry (node : Node) : Nat → Nat × Node
  | 0 => (0, node)
  | count + 1 =>
    match node.nextTelemetry with
    | (none, same) => (0, same)
    | (some _, smaller) =>
      let (taken, final) := commitTelemetry smaller count
      (taken + 1, final)

/-- The records that a message has room for, and that fill it. -/
def piggybackCount (node : Node) (message : Message) : Nat :=
  min (message.telemetryRoom / node.settings.recordSize)
    (recordsPerMessage node.settings.recordSize)

/-- Writes a message with as many received records as it has room for, and takes those. -/
def encodeWithPending (node : Node) (message : Message) : Except CodecError Bytes × Node :=
  let block := node.telemetryBlock (node.piggybackCount message)
  if block.isEmpty then (message.encode, node)
  else
    match message.encodeWith (some block) with
    | .error err => (.error err, node)
    | .ok bytes => (.ok bytes, (node.commitTelemetry (block.length / node.settings.recordSize)).2)

end MeshTelemetry.Node
