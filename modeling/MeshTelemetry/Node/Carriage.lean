import MeshTelemetry.Element.Walk
import MeshTelemetry.Frame
import MeshTelemetry.Node.Basic
import MeshTelemetry.Telemetry.Content

/-!
# Carriage

A carrier leaves a node in the header region of a frame and reaches the next node in the data of the
frame received. Embedding writes all elements into one stretch of header room, so it either succeeds
or leaves the frame alone, and it frees the carrier in both cases. Extracting strips the elements
again, hands the records to the application, and, on a frame that travels on, makes the content the
node's carrier unless it has one.
-/

namespace MeshTelemetry

/-- Writes the elements around the content in front of the frame. -/
def Frame.embed (frame : Frame) (content : TelemetryContent) :
    Except TelemetryError (Nat × Frame) := do
  let descriptor ← ietfDescriptor content.encodedLength
  let total := headerTermination.length + descriptor.length + content.encodedLength +
    payloadTermination.length
  match frame.allocHeader? total with
  | none => .error (.headerAllocation total)
  | some (_, grown) =>
    .ok (total, grown.writeHeader
      (headerTermination ++ descriptor ++ content.encode ++ payloadTermination))

/-- The telemetry in a frame's data and the length of the list of elements, if there is any. -/
def readTelemetry (settings : Settings) (data : Bytes) :
    Except TelemetryError (Option (TelemetryContent × Nat)) := do
  match ← findTelemetry data settings.subtype with
  | none => return none
  | some span =>
    let content ← TelemetryContent.decode settings.layout span.content
    return some (content, span.listLength)

namespace Node

/-- Writes the carrier into the frame and frees it; the result is the number of bytes added. -/
def embed (node : Node) (frame : Frame) : Except TelemetryError Nat × Node × Frame :=
  match node.carrier with
  | none => (.error .noCarrier, node, frame)
  | some header =>
    let (records, store) := node.store.drainCarrier
    let freed := { node with carrier := none, store := store }
    match frame.embed ⟨header, records⟩ with
    | .ok (written, grown) =>
      (.ok written,
        { freed with
          counters.framesEmbedded := freed.counters.framesEmbedded + 1
          counters.telemetryBytesSent := freed.counters.telemetryBytesSent + written },
        grown.setHasElements true)
    | .error err =>
      (.error err,
        { freed with counters.embedFailures := freed.counters.embedFailures + 1 }, frame)

/-- Queues a received record for the application; a full pool refuses it. -/
def receiveRecord (node : Node) (record : Record) : Node :=
  match node.store.pushConsumption record with
  | .ok store => { node with store := store }
  | .error _ => { node with counters.poolExhaustions := node.counters.poolExhaustions + 1 }

def receiveRecords (node : Node) (records : List Record) : Node :=
  let counted :=
    { node with counters.recordsReceived := node.counters.recordsReceived + records.length }
  records.foldl receiveRecord counted

/-- Queues records to travel on until the pool refuses one, and says whether it did. -/
def queueRecords (store : RecordStore) : List Record → Bool × RecordStore
  | [] => (false, store)
  | record :: records =>
    match store.pushCarrier record with
    | .ok next => queueRecords next records
    | .error _ => (true, store)

/-- Takes the content over as the node's carrier, marked if not all of its records found room. -/
def carry (node : Node) (content : TelemetryContent) : Node :=
  if node.carrier.isSome then node
  else
    let (refused, store) := queueRecords node.store content.records
    let marks := refused && !content.header.isOverflowed
    { node with
      store := store
      carrier := some (if marks then content.header.setOverflowed else content.header)
      counters.carriersReceived := node.counters.carriersReceived + 1
      counters.poolExhaustions := node.counters.poolExhaustions + if refused then 1 else 0
      counters.overflowEvents := node.counters.overflowEvents + if marks then 1 else 0 }

/-- Strips the telemetry from a received frame. -/
def extract (node : Node) (frame : Frame) (destinedHere : Bool) :
    Except TelemetryError (Option TelemetryContent) × Node × Frame :=
  if !frame.hasElements then (.ok none, node, frame)
  else
    match readTelemetry node.settings frame.data with
    | .error err =>
      (.error err,
        { node with counters.malformedFrames := node.counters.malformedFrames + 1 }, frame)
    | .ok none => (.ok none, node, frame)
    | .ok (some (found, listLength)) =>
      let stripped := ((frame.consume? listLength).getD frame).setHasElements false
      let content := found.fillChannels node.environment.channel.toNat
      let received := node.receiveRecords content.records
      (.ok (some content), if destinedHere then received else received.carry content, stripped)

end Node

end MeshTelemetry
