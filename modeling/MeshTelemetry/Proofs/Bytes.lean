import Mathlib.Algebra.Group.Nat.Defs
import Mathlib.Data.List.Induction
import MeshTelemetry.Bytes

/-!
# Numbers and their bytes

A field of fixed width holds its number up to the wrap at that width, in either byte order. The two
orders are mirror images, so the big-endian facts come from the little-endian ones.
-/

namespace MeshTelemetry

theorem natOfBytesLE_bytesLE (width value : Nat) :
    natOfBytesLE (bytesLE width value) = value % 256 ^ width := by
  induction width generalizing value with
  | zero => simp [bytesLE, natOfBytesLE, Nat.mod_one]
  | succ width ih =>
    have hbyte : (UInt8.ofNat value).toNat = value % 256 := by simp
    rw [bytesLE, natOfBytesLE, ih, hbyte, Nat.pow_succ', Nat.mod_mul]

theorem natOfBytesBE_concat (bytes : Bytes) (byte : UInt8) :
    natOfBytesBE (bytes ++ [byte]) = natOfBytesBE bytes * 256 + byte.toNat := by
  simp [natOfBytesBE]

theorem natOfBytesBE_reverse (bytes : Bytes) :
    natOfBytesBE bytes.reverse = natOfBytesLE bytes := by
  induction bytes with
  | nil => rfl
  | cons byte bytes ih =>
    rw [List.reverse_cons, natOfBytesBE_concat, ih, natOfBytesLE]
    omega

theorem natOfBytesBE_bytesBE (width value : Nat) :
    natOfBytesBE (bytesBE width value) = value % 256 ^ width := by
  rw [bytesBE, natOfBytesBE_reverse, natOfBytesLE_bytesLE]

/-- Leading zero bytes do not count. -/
theorem natOfBytesBE_dropWhile_zero (bytes : Bytes) :
    natOfBytesBE (bytes.dropWhile (· == 0)) = natOfBytesBE bytes := by
  induction bytes with
  | nil => rfl
  | cons byte bytes ih =>
    by_cases hzero : byte = 0
    · rw [List.dropWhile_cons_of_pos (by simp [hzero]), ih]
      simp [natOfBytesBE, hzero]
    · rw [List.dropWhile_cons_of_neg (by simp [hzero])]

theorem bytesBE_two (value : Nat) :
    bytesBE 2 value = [UInt8.ofNat (value / 256), UInt8.ofNat value] := rfl

theorem natOfBytesBE_singleton (byte : UInt8) : natOfBytesBE [byte] = byte.toNat := by
  simp [natOfBytesBE]

theorem natOfBytesBE_pair (high low : UInt8) :
    natOfBytesBE [high, low] = high.toNat * 256 + low.toNat := by
  simp [natOfBytesBE]

theorem bytesLE_zero (width : Nat) : bytesLE width 0 = List.replicate width 0 := by
  induction width with
  | zero => rfl
  | succ width ih =>
    rw [bytesLE, Nat.zero_div, ih, List.replicate_succ]
    rfl

/-- A field that is wide enough holds the bytes, and zeros where they do not reach. -/
theorem bytesLE_natOfBytesLE {width : Nat} {bytes : Bytes} (h : bytes.length ≤ width) :
    bytesLE width (natOfBytesLE bytes) = bytes ++ List.replicate (width - bytes.length) 0 := by
  induction bytes generalizing width with
  | nil => exact bytesLE_zero width
  | cons byte bytes ih =>
    have hlt := byte.toNat_lt
    obtain ⟨narrower, rfl⟩ : ∃ narrower, width = narrower + 1 := by
      rw [List.length_cons] at h
      exact ⟨width - 1, by omega⟩
    have hlow : UInt8.ofNat (byte.toNat + 256 * natOfBytesLE bytes) = byte := by
      apply UInt8.toNat_inj.mp
      simp only [UInt8.toNat_ofNat']
      omega
    have hhigh : (byte.toNat + 256 * natOfBytesLE bytes) / 256 = natOfBytesLE bytes := by omega
    rw [natOfBytesLE, bytesLE, hlow, hhigh, ih (Nat.le_of_succ_le_succ h), List.length_cons,
      Nat.add_sub_add_right, List.cons_append]

theorem bytesBE_natOfBytesBE {width : Nat} {bytes : Bytes} (h : bytes.length ≤ width) :
    bytesBE width (natOfBytesBE bytes) = List.replicate (width - bytes.length) 0 ++ bytes := by
  have hreverse := natOfBytesBE_reverse bytes.reverse
  rw [List.reverse_reverse] at hreverse
  have hlength : bytes.reverse.length ≤ width := by rwa [List.length_reverse]
  rw [bytesBE, hreverse, bytesLE_natOfBytesLE hlength, List.reverse_append, List.reverse_reverse,
    List.reverse_replicate, List.length_reverse]

theorem natOfBytesBE_lt (bytes : Bytes) : natOfBytesBE bytes < 256 ^ bytes.length := by
  induction bytes using List.reverseRecOn with
  | nil => exact Nat.one_pos
  | append_singleton bytes byte ih =>
    have hlt := byte.toNat_lt
    rw [natOfBytesBE_concat, List.length_append, List.length_singleton, Nat.pow_succ]
    omega

theorem natOfBytesLE_lt (bytes : Bytes) : natOfBytesLE bytes < 256 ^ bytes.length := by
  rw [← natOfBytesBE_reverse, ← List.length_reverse]
  exact natOfBytesBE_lt bytes.reverse

end MeshTelemetry
