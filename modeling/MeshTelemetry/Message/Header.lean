import MeshTelemetry.Bytes
import MeshTelemetry.Message.Error
import MeshTelemetry.Message.Kind

/-!
# The fixed message header

Four bytes start every message: two bits of version, two of kind and four of token length, then the
code, then the message id in big-endian order.
-/

namespace MeshTelemetry

def protocolVersion : Nat := 1
def headerSize : Nat := 4
def maxTokenLength : Nat := 8

structure MessageHeader where
  version : Nat
  kind : MessageKind
  tokenLength : Nat
  code : Code
  messageId : UInt16
  deriving DecidableEq, Repr

namespace MessageHeader

/-- A header of the supported version; the token length is capped at its maximum. -/
def ofParts (kind : MessageKind) (code : Code) (messageId : UInt16) (tokenLength : Nat) :
    MessageHeader where
  version := protocolVersion
  kind := kind
  tokenLength := min tokenLength maxTokenLength
  code := code
  messageId := messageId

/-- The header of an empty confirmable message with id 0. -/
def blank : MessageHeader := ofParts .confirmable Code.empty 0 0

def validate (header : MessageHeader) : Except CodecError Unit :=
  if header.version ≠ protocolVersion then .error (.unsupportedVersion header.version)
  else if maxTokenLength < header.tokenLength then .error (.tokenTooLong header.tokenLength)
  else .ok ()

def encode (header : MessageHeader) : Bytes :=
  UInt8.ofNat (header.version % 4 * 64 + header.kind.bits * 16 + header.tokenLength % 16) ::
    header.code.byte :: bytesBE 2 header.messageId.toNat

/-- Reads a header from the first four bytes; the version is checked before the token length. -/
def decode : Bytes → Except CodecError MessageHeader
  | first :: code :: high :: low :: _ => do
    let header : MessageHeader :=
      { version := first.toNat / 64
        kind := MessageKind.ofBits (first.toNat / 16)
        tokenLength := first.toNat % 16
        code := ⟨code⟩
        messageId := UInt16.ofNat (natOfBytesBE [high, low]) }
    header.validate
    return header
  | short => .error (.messageTooShort headerSize short.length)

end MessageHeader

end MeshTelemetry
