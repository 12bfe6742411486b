import MeshTelemetry.Message.Code

/-!
# What can go wrong with a message

A codec error names its cause, and where the cause has a place in the input, the byte offset of that
place. A server answers a failed request with the error's response code: 4.00 for input that is no
message at all, a code of its own for an option that the node refuses, and 5.00 for a message that
the node itself built wrongly.
-/

namespace MeshTelemetry

/-- The part of a message that a reader was in when the input ended. -/
inductive Field where
  | token
  | optionDelta
  | optionLength
  | optionValue
  | telemetryLength
  | telemetryBlock
  deriving DecidableEq, Repr

def Field.name : Field → String
  | .token => "token"
  | .optionDelta => "option delta"
  | .optionLength => "option length"
  | .optionValue => "option value"
  | .telemetryLength => "telemetry length"
  | .telemetryBlock => "telemetry block"

inductive CodecError where
  | messageTooShort (needed got : Nat)
  | unsupportedVersion (version : Nat)
  | tokenTooLong (length : Nat)
  | truncated (field : Field) (offset : Nat)
  | reservedNibble (offset : Nat)
  | optionTooLong (number length : Nat)
  | optionNumberOverflow (offset : Nat)
  | badOption (number : Nat)
  | proxyingNotSupported (number : Nat)
  | invalidUtf8 (number : Nat)
  | headerTooLarge (size limit : Nat)
  | invalidBlockSize (size : Nat)
  | invalidBlockNumber (number : Nat)
  deriving DecidableEq, Repr

namespace CodecError

def message : CodecError → String
  | messageTooShort needed got => s!"message too short: need {needed} bytes, got {got}"
  | unsupportedVersion version => s!"unsupported version: {version}"
  | tokenTooLong length => s!"token length {length} exceeds maximum of 8"
  | truncated field offset => s!"truncated {field.name} at offset {offset}"
  | reservedNibble offset => s!"reserved option nibble at offset {offset}"
  | optionTooLong number length => s!"option {number} value too long: {length} bytes"
  | optionNumberOverflow offset => s!"option number overflow at offset {offset}"
  | badOption number => s!"unsupported critical option {number}"
  | proxyingNotSupported number => s!"proxying not supported (option {number})"
  | invalidUtf8 number => s!"option {number} is not valid UTF-8"
  | headerTooLarge size limit => s!"serialized header too large: {size} bytes (max {limit})"
  | invalidBlockSize size => s!"invalid block size: {size}"
  | invalidBlockNumber number => s!"invalid block number: {number}"

def responseCode : CodecError → Code
  | badOption _ => Code.badOption
  | proxyingNotSupported _ => Code.proxyingNotSupported
  | headerTooLarge _ _ | invalidBlockSize _ | invalidBlockNumber _ => Code.internalServerError
  | _ => Code.badRequest

/-- Whether the input was no message, as against a message that the node refuses or cannot write. -/
def isMalformed : CodecError → Bool
  | messageTooShort _ _ | unsupportedVersion _ | tokenTooLong _ | truncated _ _
  | reservedNibble _ | optionNumberOverflow _ | invalidUtf8 _ => true
  | _ => false

end CodecError

end MeshTelemetry
