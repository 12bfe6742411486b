import MeshTelemetry.Message.Basic
import MeshTelemetry.Message.OptionHeader
import MeshTelemetry.Message.UintValue

/-!
# Options on the wire

A message goes to the wire as a list of numbered values in ascending order, and a text of many parts
as one value for each part. Reading absorbs the values one by one: parts are joined again, and of a
single-valued option the last value counts. What absorbing takes is wider than what writing makes,
for a sender may repeat options, pad integers, or put a separator into a part.
-/

namespace MeshTelemetry

structure WireOption where
  number : Nat
  value : Bytes
  deriving DecidableEq, Repr

namespace Message

/-- The parts of a text, each as a value of its own. -/
def partValues (separator : Char) (text : Option String) : List Bytes :=
  text.toList.flatMap fun text => (Text.split separator text).map Text.utf8

/-- The values that the message holds for an option, in the order of writing. -/
def values (message : Message) : OptionKind → List Bytes
  | .ifMatch => message.ifMatch.toList
  | .uriHost => message.uriHost.toList.map Text.utf8
  | .etag => message.etag.toList
  | .ifNoneMatch => if message.ifNoneMatch then [[]] else []
  | .observe => message.observe.toList.map encodeUint
  | .uriPort => message.uriPort.toList.map (encodeUint ·.toUInt32)
  | .locationPath => partValues '/' message.locationPath
  | .uriPath => partValues '/' message.uriPath
  | .contentFormat => message.contentFormat.toList.map (encodeUint ·.toUInt32)
  | .maxAge => message.maxAge.toList.map encodeUint
  | .uriQuery => partValues '&' message.uriQuery
  | .accept => message.accept.toList.map (encodeUint ·.toUInt32)
  | .locationQuery => partValues '&' message.locationQuery
  | .block2 => message.block2.toList.map (encodeUint ·.toValue)
  | .block1 => message.block1.toList.map (encodeUint ·.toValue)
  | .size2 => message.size2.toList.map encodeUint
  | .proxyUri => message.proxyUri.toList.map Text.utf8
  | .proxyScheme => message.proxyScheme.toList.map Text.utf8
  | .size1 => message.size1.toList.map encodeUint

/-- Whether the option is present; a present option has at least one value. -/
def has (message : Message) (kind : OptionKind) : Bool := !(message.values kind).isEmpty

/-- All values of the message in ascending order of their numbers. -/
def wireOptions (message : Message) : List WireOption :=
  OptionKind.all.flatMap fun kind => (message.values kind).map (⟨kind.number, ·⟩)

def readText (kind : OptionKind) (value : Bytes) : Except CodecError String :=
  match Text.ofUtf8? value with
  | some text => .ok text
  | none => .error (.invalidUtf8 kind.number)

/-- Adds a part to a text that may hold parts already. -/
def appendPart (separator : Char) (part : String) : Option String → Option String
  | some text => some (text.push separator ++ part)
  | none => some part

/-- Stores one value of a known option. Proxy options are refused. -/
def absorbKnown (message : Message) (kind : OptionKind) (value : Bytes) :
    Except CodecError Message :=
  match kind with
  | .ifMatch => return { message with ifMatch := some (value.take maxTagLength) }
  | .uriHost => return { message with uriHost := some (← readText kind value) }
  | .etag => return { message with etag := some (value.take maxTagLength) }
  | .ifNoneMatch => return { message with ifNoneMatch := true }
  | .observe => return { message with observe := some (decodeUint value) }
  | .uriPort => return { message with uriPort := some (decodeUint16 value) }
  | .locationPath => do
    let part ← readText kind value
    return { message with locationPath := appendPart '/' part message.locationPath }
  | .uriPath => do
    let part ← readText kind value
    return { message with uriPath := appendPart '/' part message.uriPath }
  | .contentFormat => return { message with contentFormat := some (decodeUint16 value) }
  | .maxAge => return { message with maxAge := some (decodeUint value) }
  | .uriQuery => do
    let part ← readText kind value
    return { message with uriQuery := appendPart '&' part message.uriQuery }
  | .accept => return { message with accept := some (decodeUint16 value) }
  | .locationQuery => do
    let part ← readText kind value
    return { message with locationQuery := appendPart '&' part message.locationQuery }
  | .block2 => return { message with block2 := some (Block.ofValue (decodeUint value)) }
  | .block1 => return { message with block1 := some (Block.ofValue (decodeUint value)) }
  | .size2 => return { message with size2 := some (decodeUint value) }
  | .proxyUri | .proxyScheme => .error (.proxyingNotSupported kind.number)
  | .size1 => return { message with size1 := some (decodeUint value) }

/-- Stores one value from the wire. An unknown option is refused if it is critical and passed over
if not. -/
def absorb (message : Message) (option : WireOption) : Except CodecError Message :=
  match OptionKind.ofNumber? option.number with
  | some kind => message.absorbKnown kind option.value
  | none => if isCritical option.number then .error (.badOption option.number) else .ok message

end Message

end MeshTelemetry
