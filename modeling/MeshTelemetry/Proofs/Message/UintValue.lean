import Mathlib.Data.List.Induction
import MeshTelemetry.Message.UintValue
import MeshTelemetry.Proofs.Bytes

/-!
# What an integer option means

A reader accumulates in 32-bit words, which is the big-endian number of the bytes brought below the
wrap. A writer drops leading zero bytes, which do not count, so reading what was written gives the
number back.
-/

namespace MeshTelemetry

theorem decodeUint_concat (bytes : Bytes) (byte : UInt8) :
    decodeUint (bytes ++ [byte]) = decodeUint bytes * 256 + byte.toUInt32 := by
  simp [decodeUint]

/-- The value of an integer option is its big-endian number modulo `2 ^ 32`. -/
theorem decodeUint_eq (bytes : Bytes) : decodeUint bytes = UInt32.ofNat (natOfBytesBE bytes) := by
  induction bytes using List.reverseRecOn with
  | nil => rfl
  | append_singleton bytes byte ih =>
    have hbyte : UInt32.ofNat byte.toNat = byte.toUInt32 := by
      apply UInt32.toNat_inj.mp
      simp
    rw [decodeUint_concat, natOfBytesBE_concat, ih, UInt32.ofNat_add, UInt32.ofNat_mul, hbyte]
    rfl

theorem decodeUint_encodeUint (value : UInt32) : decodeUint (encodeUint value) = value := by
  have hlt : value.toNat < 256 ^ 4 := value.toNat_lt
  rw [decodeUint_eq, encodeUint, natOfBytesBE_dropWhile_zero, natOfBytesBE_bytesBE,
    Nat.mod_eq_of_lt hlt, UInt32.ofNat_toNat]

theorem decodeUint16_encodeUint (value : UInt16) :
    decodeUint16 (encodeUint value.toUInt32) = value := by
  have hlt := value.toNat_lt
  rw [decodeUint16, decodeUint_encodeUint, UInt16.toNat_toUInt32, Nat.min_eq_left (by omega),
    UInt16.ofNat_toNat]

theorem encodeUint_length_le (value : UInt32) : (encodeUint value).length ≤ 4 := by
  have hle := (List.dropWhile_sublist (· == 0) (l := bytesBE 4 value.toNat)).length_le
  rwa [bytesBE_length] at hle

theorem head?_dropWhile_zero_ne (bytes : Bytes) :
    (bytes.dropWhile (· == 0)).head? ≠ some 0 := by
  have hhead := List.head?_dropWhile_not (· == (0 : UInt8)) bytes
  intro h
  rw [h] at hhead
  cases hhead

/-- Nothing is written in front of the number. -/
theorem encodeUint_head?_ne_zero (value : UInt32) : (encodeUint value).head? ≠ some 0 :=
  head?_dropWhile_zero_ne _

theorem dropWhile_zeros_append {value : Bytes} (hhead : value.head? ≠ some 0) (count : Nat) :
    (List.replicate count 0 ++ value).dropWhile (· == 0) = value := by
  rw [List.dropWhile_append_of_pos (by simp)]
  cases value with
  | nil => rfl
  | cons byte rest =>
    rw [List.dropWhile_cons_of_neg]
    simpa using hhead

/-- A value without zeros in front is the one that is written for its number. -/
theorem encodeUint_natOfBytesBE {value : Bytes} (hlength : value.length ≤ 4)
    (hhead : value.head? ≠ some 0) : encodeUint (UInt32.ofNat (natOfBytesBE value)) = value := by
  have hlt : natOfBytesBE value < UInt32.size := by
    have hpow : 256 ^ value.length ≤ 256 ^ 4 := Nat.pow_le_pow_right (by decide) hlength
    exact Nat.lt_of_lt_of_le (natOfBytesBE_lt value) hpow
  rw [encodeUint, UInt32.toNat_ofNat_of_lt' hlt, bytesBE_natOfBytesBE hlength,
    dropWhile_zeros_append hhead]

theorem encodeUint_length_le_two (value : UInt16) : (encodeUint value.toUInt32).length ≤ 2 := by
  have hlt : value.toNat < 256 ^ 2 := value.toNat_lt
  have hnumber : value.toUInt32.toNat = natOfBytesBE (bytesBE 2 value.toNat) := by
    rw [natOfBytesBE_bytesBE, Nat.mod_eq_of_lt hlt, UInt16.toNat_toUInt32]
  have hle : (bytesBE 2 value.toNat).length ≤ 4 := by
    rw [bytesBE_length]
    decide
  rw [encodeUint, hnumber, bytesBE_natOfBytesBE hle, List.dropWhile_append_of_pos (by simp)]
  exact Nat.le_trans (List.dropWhile_sublist _).length_le (Nat.le_of_eq (bytesBE_length 2 _))

end MeshTelemetry
