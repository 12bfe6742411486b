import MeshTelemetry.Text
import MeshTelemetry.Xxh3
import MeshTelemetry.Message.Block
import MeshTelemetry.Message.Header
import MeshTelemetry.Message.OptionKind

/-!
# Messages

A message is a request or a response in memory: kind, code, id and token from the header, one field
for each option, and the payload. A text option of many parts holds all of them in one text: path
segments with `/` between them and query terms with `&`.

A setter that trims or cuts its argument returns the number of bytes it stored beside the message.
Options without such a rule are set by assigning the field.
-/

namespace MeshTelemetry

def maxTagLength : Nat := 8
def maxPayloadLength : Nat := 64
def defaultMaxAge : UInt32 := 60

structure Message where
  kind : MessageKind
  code : Code
  messageId : UInt16
  token : Bytes := []
  ifMatch : Option Bytes := none
  uriHost : Option String := none
  etag : Option Bytes := none
  ifNoneMatch : Bool := false
  observe : Option UInt32 := none
  uriPort : Option UInt16 := none
  locationPath : Option String := none
  uriPath : Option String := none
  contentFormat : Option UInt16 := none
  maxAge : Option UInt32 := none
  uriQuery : Option String := none
  accept : Option UInt16 := none
  locationQuery : Option String := none
  block2 : Option Block := none
  block1 : Option Block := none
  size2 : Option UInt32 := none
  proxyUri : Option String := none
  proxyScheme : Option String := none
  size1 : Option UInt32 := none
  payload : Bytes := []
  deriving DecidableEq, Repr

namespace Message

def isEmpty (message : Message) : Bool := message.code.isEmpty

/-- The age that holds for the message, by default when the option is absent. -/
def effectiveMaxAge (message : Message) : UInt32 := message.maxAge.getD defaultMaxAge

def setToken (message : Message) (token : Bytes) : Nat × Message :=
  let stored := token.take maxTokenLength
  (stored.length, { message with token := stored })

def setPayload (message : Message) (payload : Bytes) : Nat × Message :=
  let stored := payload.take maxPayloadLength
  (stored.length, { message with payload := stored })

def setIfMatch (message : Message) (tag : Bytes) : Nat × Message :=
  let stored := tag.take maxTagLength
  (stored.length, { message with ifMatch := some stored })

def setEtag (message : Message) (tag : Bytes) : Nat × Message :=
  let stored := tag.take maxTagLength
  (stored.length, { message with etag := some stored })

def setEtagOf (message : Message) (representation : Bytes) : Message :=
  { message with etag := some (bytesBE maxTagLength (Xxh3.digest representation).toNat) }

def setUriHost (message : Message) (host : String) : Nat × Message :=
  (host.utf8ByteSize, { message with uriHost := some host })

def setProxyUri (message : Message) (uri : String) : Nat × Message :=
  (uri.utf8ByteSize, { message with proxyUri := some uri })

def setProxyScheme (message : Message) (scheme : String) : Nat × Message :=
  (scheme.utf8ByteSize, { message with proxyScheme := some scheme })

def setUriPath (message : Message) (path : String) : Nat × Message :=
  let stored := Text.dropLeading '/' path
  (stored.utf8ByteSize, { message with uriPath := some stored })

def setUriQuery (message : Message) (query : String) : Nat × Message :=
  let stored := Text.dropLeading '?' query
  (stored.utf8ByteSize, { message with uriQuery := some stored })

def setLocationQuery (message : Message) (query : String) : Nat × Message :=
  let stored := Text.dropLeading '?' query
  (stored.utf8ByteSize, { message with locationQuery := some stored })

/-- What follows the first question mark goes to the query. An empty path is not stored: the path
that was there before stays. -/
def setLocationPath (message : Message) (path : String) : Nat × Message :=
  let trimmed := Text.dropLeading '/' path
  let (stored, queried) :=
    match Text.cutFirst? '?' trimmed with
    | some (before, query) => (before, (message.setLocationQuery query).2)
    | none => (trimmed, message)
  if stored.isEmpty then (0, queried)
  else (stored.utf8ByteSize, { queried with locationPath := some stored })

def setBlock1 (message : Message) (number : Nat) (more : Bool) (size : Nat) :
    Except CodecError Message := do
  let block ← Block.ofParts number more size
  return { message with block1 := some block }

def setBlock2 (message : Message) (number : Nat) (more : Bool) (size : Nat) :
    Except CodecError Message := do
  let block ← Block.ofParts number more size
  return { message with block2 := some block }

def queryVariable? (message : Message) (name : String) : Option String :=
  message.uriQuery.bind (Text.formVariable? name)

/-- Looks the name up in a payload that is a form; a payload that is no text names nothing. -/
def postVariable? (message : Message) (name : String) : Option String :=
  (Text.ofUtf8? message.payload).bind (Text.formVariable? name)

end Message

/-- The id that follows `last`: ids are issued in turn and wrap. -/
def nextMessageId (last : UInt16) : UInt16 := last + 1

/-- The next `count` ids after `last`. -/
def messageIdsAfter : UInt16 → Nat → List UInt16
  | _, 0 => []
  | last, count + 1 => nextMessageId last :: messageIdsAfter (nextMessageId last) count

end MeshTelemetry
