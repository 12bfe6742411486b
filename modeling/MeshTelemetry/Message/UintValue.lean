import MeshTelemetry.Bytes

/-!
# Integer option values

An integer option holds a big-endian number without leading zero bytes, so zero is the empty value.
A reader takes any number of bytes and keeps the low 32 bits.
-/

namespace MeshTelemetry

def encodeUint (value : UInt32) : Bytes :=
  (bytesBE 4 value.toNat).dropWhile (· == 0)

def decodeUint (bytes : Bytes) : UInt32 :=
  bytes.foldl (fun value byte => value * 256 + byte.toUInt32) 0

/-- The value of a 16-bit option: a number above the range is read as its greatest member. -/
def decodeUint16 (bytes : Bytes) : UInt16 :=
  UInt16.ofNat (min (decodeUint bytes).toNat 65535)

end MeshTelemetry
