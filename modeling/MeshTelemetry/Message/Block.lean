import MeshTelemetry.Message.Error

/-!
# Blocks of a large body

A body that exceeds one message travels in blocks whose size is a power of two from 16 to 2048. The
descriptor packs the block's number, whether more blocks follow, and the exponent of its size into
one integer option, so it is exactly a 32-bit value. A node asks for block numbers of 20 bits only;
a descriptor from the wire can hold 28.
-/

namespace MeshTelemetry

structure Block where
  number : Fin 0x10000000
  more : Bool
  exponent : Fin 8
  deriving DecidableEq, Repr

def maxBlockNumber : Nat := 0x0FFFFF

namespace Block

def sizeOfExponent (exponent : Fin 8) : Nat := 16 <<< exponent.val

def exponentOfSize? (size : Nat) : Option (Fin 8) :=
  (List.finRange 8).find? fun exponent => sizeOfExponent exponent == size

def size (block : Block) : Nat := sizeOfExponent block.exponent

/-- The place of the block's first byte in the body, at most the greatest 32-bit number. -/
def offset (block : Block) : Nat := min (block.number.val * block.size) 0xFFFFFFFF

/-- The descriptor of a block to ask for; the size is checked before the number. -/
def ofParts (number : Nat) (more : Bool) (size : Nat) : Except CodecError Block :=
  match exponentOfSize? size with
  | none => .error (.invalidBlockSize size)
  | some exponent =>
    if h : number ≤ maxBlockNumber then
      .ok ⟨⟨number, Nat.lt_of_le_of_lt h (by decide)⟩, more, exponent⟩
    else .error (.invalidBlockNumber number)

def toValue (block : Block) : UInt32 :=
  UInt32.ofNat (block.number.val * 16 + (if block.more then 8 else 0) + block.exponent.val)

def ofValue (value : UInt32) : Block where
  number := ⟨value.toNat / 16, by have := value.toNat_lt; omega⟩
  more := value.toNat / 8 % 2 = 1
  exponent := ⟨value.toNat % 8, Nat.mod_lt _ (by decide)⟩

end Block

end MeshTelemetry
