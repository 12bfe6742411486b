/-!
# Bytes on the wire

Every format of this library is a list of bytes. A fixed-width field is a natural number in one of
the two byte orders: messages are big-endian, elements and records are little-endian. The encoders
keep the low bytes of the number, so the width alone decides the length of a field.
-/

namespace MeshTelemetry

abbrev Bytes := List UInt8

/-- The `width` low bytes of `value`, least significant first. -/
def bytesLE : Nat → Nat → Bytes
  | 0, _ => []
  | width + 1, value => UInt8.ofNat value :: bytesLE width (value / 256)

def natOfBytesLE : Bytes → Nat
  | [] => 0
  | byte :: rest => byte.toNat + 256 * natOfBytesLE rest

/-- The `width` low bytes of `value`, most significant first. -/
def bytesBE (width value : Nat) : Bytes :=
  (bytesLE width value).reverse

def natOfBytesBE (bytes : Bytes) : Nat :=
  bytes.foldl (fun value byte => value * 256 + byte.toNat) 0

def lowNibble (value : Nat) : Fin 16 := ⟨value % 16, Nat.mod_lt _ (by decide)⟩

/-- The first `count` bytes and the rest, unless fewer are left. -/
def splitExactly (count : Nat) (bytes : Bytes) : Option (Bytes × Bytes) :=
  if (bytes.take count).length = count then some (bytes.take count, bytes.drop count) else none

theorem bytesLE_length (width value : Nat) : (bytesLE width value).length = width := by
  induction width generalizing value with
  | zero => rfl
  | succ width ih => simp [bytesLE, ih]

theorem bytesBE_length (width value : Nat) : (bytesBE width value).length = width := by
  simp [bytesBE, bytesLE_length]

theorem splitExactly_eq_some_iff {count : Nat} {bytes head rest : Bytes} :
    splitExactly count bytes = some (head, rest) ↔ bytes = head ++ rest ∧ head.length = count := by
  unfold splitExactly
  constructor
  · intro h
    split at h
    · rename_i hlen
      simp only [Option.some.injEq, Prod.mk.injEq] at h
      obtain ⟨rfl, rfl⟩ := h
      exact ⟨(List.take_append_drop count bytes).symm, hlen⟩
    · cases h
  · rintro ⟨rfl, rfl⟩
    simp

theorem splitExactly_rest_length {count : Nat} {bytes head rest : Bytes}
    (h : splitExactly count bytes = some (head, rest)) : count + rest.length = bytes.length := by
  obtain ⟨rfl, rfl⟩ := splitExactly_eq_some_iff.mp h
  simp

theorem splitExactly_eq_none_iff {count : Nat} {bytes : Bytes} :
    splitExactly count bytes = none ↔ bytes.length < count := by
  unfold splitExactly
  simp only [List.length_take]
  split
  · rename_i h
    simp only [reduceCtorEq, false_iff]
    omega
  · rename_i h
    simp only [true_iff]
    omega

end MeshTelemetry
