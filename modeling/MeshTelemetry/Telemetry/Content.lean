import MeshTelemetry.Telemetry.Header
import MeshTelemetry.Telemetry.Record

/-!
# Telemetry content

The content of a telemetry element is the header and the records, first hop first. Reading takes as
many whole records as there are; bytes that make up no whole record are passed over.
-/

namespace MeshTelemetry

/-- The first `count` pieces of `size` bytes. -/
def chunks (size : Nat) : Nat → Bytes → List Bytes
  | 0, _ => []
  | count + 1, bytes => bytes.take size :: chunks size count (bytes.drop size)

structure TelemetryContent where
  header : TelemetryHeader
  records : List Record
  deriving DecidableEq, Repr

namespace TelemetryContent

def encodedLength (content : TelemetryContent) : Nat :=
  telemetryHeaderSize + content.records.foldr (fun record length => record.encodedLength + length) 0

def encode (content : TelemetryContent) : Bytes :=
  content.header.encode ++ content.records.flatMap Record.encode

def decode (layout : RecordLayout) (bytes : Bytes) : Except TelemetryError TelemetryContent := do
  let header ← TelemetryHeader.decode bytes
  let body := bytes.drop telemetryHeaderSize
  let size := layout.recordSize
  if size = 0 then .error (.layoutMismatch 0 body.length)
  else do
    let records ← (chunks size (body.length / size) body).mapM (Record.decode layout)
    return ⟨header, records⟩

def fillChannels (content : TelemetryContent) (channel : Nat) : TelemetryContent :=
  { content with records := content.records.map (Record.fillChannel channel) }

end TelemetryContent

end MeshTelemetry
