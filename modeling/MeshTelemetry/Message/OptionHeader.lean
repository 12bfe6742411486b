import MeshTelemetry.Message.Cursor

/-!
# Option headers

An option starts with one byte of two nibbles: the distance of its number from the number before,
and the length of its value. A nibble below 13 is the number itself. Nibble 13 announces one
extension byte, which counts from 13, and nibble 14 two, which count from 269, so that every number
up to `maxExtended` has exactly one form. Nibble 15 is reserved.
-/

namespace MeshTelemetry

/-- The least number with a one-byte extension. -/
def oneByteBase : Nat := 13

/-- The least number with a two-byte extension. -/
def twoByteBase : Nat := 269

/-- The greatest number that an option header can hold. -/
def maxExtended : Nat := twoByteBase + 65535

namespace Extended

def nibble (value : Nat) : Nat :=
  if value < oneByteBase then value
  else if value < twoByteBase then 13
  else 14

def extension (value : Nat) : Bytes :=
  if value < oneByteBase then []
  else if value < twoByteBase then bytesBE 1 (value - oneByteBase)
  else bytesBE 2 (value - twoByteBase)

def extensionSize (value : Nat) : Nat :=
  if value < oneByteBase then 0
  else if value < twoByteBase then 1
  else 2

/-- Reads the number that `nibble` announces; `start` is the offset of the option's header. -/
def read (nibble : Nat) (field : Field) (start : Nat) (cursor : Cursor) :
    Except CodecError (Nat × Cursor) :=
  if nibble < oneByteBase then .ok (nibble, cursor)
  else if nibble = 13 then do
    let (bytes, after) ← cursor.take 1 field
    return (oneByteBase + natOfBytesBE bytes, after)
  else if nibble = 14 then do
    let (bytes, after) ← cursor.take 2 field
    return (twoByteBase + natOfBytesBE bytes, after)
  else .error (.reservedNibble start)

theorem extension_length (value : Nat) : (extension value).length = extensionSize value := by
  unfold extension extensionSize
  split
  · rfl
  · split <;> exact bytesBE_length _ _

end Extended

structure OptionHeader where
  delta : Nat
  length : Nat
  deriving DecidableEq, Repr

namespace OptionHeader

def size (header : OptionHeader) : Nat :=
  1 + Extended.extensionSize header.delta + Extended.extensionSize header.length

def bytes (header : OptionHeader) : Bytes :=
  UInt8.ofNat (Extended.nibble header.delta * 16 + Extended.nibble header.length) ::
    (Extended.extension header.delta ++ Extended.extension header.length)

/-- The bytes of the header of option `number`, unless its value is too long for any header. -/
def encode (header : OptionHeader) (number : Nat) : Except CodecError Bytes :=
  if maxExtended < header.length then .error (.optionTooLong number header.length)
  else .ok header.bytes

/-- Reads the header that starts with the byte `first` at offset `start`; the cursor stands behind
that byte. -/
def read (first : UInt8) (start : Nat) (cursor : Cursor) :
    Except CodecError (OptionHeader × Cursor) := do
  let (delta, afterDelta) ← Extended.read (first.toNat / 16) .optionDelta start cursor
  let (length, afterLength) ← Extended.read (first.toNat % 16) .optionLength start afterDelta
  return (⟨delta, length⟩, afterLength)

theorem bytes_length (header : OptionHeader) : header.bytes.length = header.size := by
  simp only [bytes, size, List.length_cons, List.length_append, Extended.extension_length]
  omega

end OptionHeader

end MeshTelemetry
