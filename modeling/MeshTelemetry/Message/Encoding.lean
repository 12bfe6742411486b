import MeshTelemetry.Message.Options
import MeshTelemetry.Message.Piggyback

/-!
# Writing messages

The header, the token and the options come first, in at most `maxHeaderSize` bytes, then the
telemetry block, then the payload behind its marker. A message with the empty code is its header
alone, whatever else it holds.
-/

namespace MeshTelemetry

/-- The most that header, token and options may take. -/
def maxHeaderSize : Nat := 70

def payloadMarker : UInt8 := 0xFF

def WireOption.encode (previous : Nat) (option : WireOption) : Except CodecError Bytes := do
  let header ← OptionHeader.encode ⟨option.number - previous, option.value.length⟩ option.number
  return header ++ option.value

/-- The bytes of the options, each numbered from the one before it and the first from `previous`. -/
def encodeOptions (previous : Nat) (options : List WireOption) : Except CodecError Bytes := do
  let parts ← ((previous :: options.map WireOption.number).zip options).mapM
    fun (before, option) => option.encode before
  return parts.flatten

namespace Message

def payloadPart (message : Message) : Bytes :=
  if message.payload.isEmpty then [] else payloadMarker :: message.payload

/-- The bytes of the message with a block of telemetry, if one is offered and fits. -/
def encodeWith (message : Message) (block : Option Bytes) : Except CodecError Bytes :=
  if message.isEmpty then
    .ok (MessageHeader.ofParts message.kind message.code message.messageId 0).encode
  else do
    let header :=
      MessageHeader.ofParts message.kind message.code message.messageId message.token.length
    let options ← encodeOptions 0 message.wireOptions
    let head := header.encode ++ message.token ++ options
    if maxHeaderSize < head.length then .error (.headerTooLarge head.length maxHeaderSize)
    else .ok (head ++ message.blockPart block ++ message.payloadPart)

def encode (message : Message) : Except CodecError Bytes := message.encodeWith none

end Message

end MeshTelemetry
