import Mathlib.Data.Nat.Digits.Defs
import MeshTelemetry.Message.Block
import MeshTelemetry.Proofs.Message.CanonicalValue

/-!
# The shortest bytes of an integer

Of all bytes that are read as a number, those that are written are the fewest, and no others are as
few. Two kinds of bytes count for nothing, zeros in front and whatever stands above the low four
bytes, and only the first kind can be told from the number: bytes are written again without the zeros
in front of them exactly if four or fewer are left.
-/

namespace MeshTelemetry

/-- The big-endian number as a sum of digits to the base 256, the last byte first. -/
theorem natOfBytesBE_eq_ofDigits (bytes : Bytes) :
    natOfBytesBE bytes = Nat.ofDigits 256 (bytes.reverse.map UInt8.toNat) := by
  induction bytes using List.reverseRecOn with
  | nil => rfl
  | append_singleton bytes byte ih =>
    rw [natOfBytesBE_concat, ih, List.reverse_concat, List.map_cons, Nat.ofDigits_cons]
    omega

theorem toNat_decodeUint (bytes : Bytes) :
    (decodeUint bytes).toNat = natOfBytesBE bytes % 2 ^ 32 := by
  rw [decodeUint_eq, UInt32.toNat_ofNat']

theorem decodeUint_dropWhile_zero (bytes : Bytes) :
    decodeUint (bytes.dropWhile (· == 0)) = decodeUint bytes := by
  rw [decodeUint_eq, natOfBytesBE_dropWhile_zero, decodeUint_eq]

/-- Bytes are written as they were read but for the zeros in front, if no more than four are left. -/
theorem encodeUint_decodeUint {bytes : Bytes} (h : (bytes.dropWhile (· == 0)).length ≤ 4) :
    encodeUint (decodeUint bytes) = bytes.dropWhile (· == 0) := by
  rw [← decodeUint_dropWhile_zero, decodeUint_eq]
  exact encodeUint_natOfBytesBE h (head?_dropWhile_zero_ne bytes)

/-- All bytes of a number but the written ones are longer than these. -/
theorem encodeUint_length_lt {bytes : Bytes} (hother : bytes ≠ encodeUint (decodeUint bytes)) :
    (encodeUint (decodeUint bytes)).length < bytes.length := by
  have hsublist := List.dropWhile_sublist (· == (0 : UInt8)) (l := bytes)
  by_cases hfour : (bytes.dropWhile (· == 0)).length ≤ 4
  · rw [encodeUint_decodeUint hfour] at hother ⊢
    apply Nat.lt_of_le_of_ne hsublist.length_le
    intro hlength
    exact hother (hsublist.eq_of_length hlength).symm
  · -- What stands above the low four bytes is lost, and nothing longer than these is written.
    calc (encodeUint (decodeUint bytes)).length ≤ 4 := encodeUint_length_le _
      _ < (bytes.dropWhile (· == 0)).length := Nat.lt_of_not_le hfour
      _ ≤ bytes.length := hsublist.length_le

/-- **Integers are written in the fewest bytes.** Bytes of any length are read as their big-endian
number modulo `2 ^ 32`. What is written for a number is read as that number, does not start with a
zero byte, and is shorter than all other bytes that are read as the number. So bytes are written
again as they were read but for the zeros in front of them, exactly if at most four are left, and a
block's descriptor that was read is written again as it was. -/
theorem uint_shortest :
    (∀ bytes, (decodeUint bytes).toNat
      = Nat.ofDigits 256 (bytes.reverse.map UInt8.toNat) % 2 ^ 32) ∧
      (∀ value, decodeUint (encodeUint value) = value ∧ (encodeUint value).head? ≠ some 0 ∧
        (encodeUint value = [] ↔ value = 0) ∧
          ∀ bytes, decodeUint bytes = value → bytes ≠ encodeUint value →
            (encodeUint value).length < bytes.length) ∧
      (∀ bytes, encodeUint (decodeUint bytes) = bytes.dropWhile (· == 0) ↔
        (bytes.dropWhile (· == 0)).length ≤ 4) ∧
      (∀ value, (Block.ofValue value).toValue = value) ∧
        ∀ block, Block.ofValue block.toValue = block := by
  refine ⟨?_, ?_, ?_, Block.toValue_ofValue, Block.ofValue_toValue⟩
  · intro bytes
    rw [toNat_decodeUint, natOfBytesBE_eq_ofDigits]
  · intro value
    refine ⟨decodeUint_encodeUint value, encodeUint_head?_ne_zero value, ?_, ?_⟩
    · constructor
      · intro hempty
        rw [← decodeUint_encodeUint value, hempty]
        rfl
      · rintro rfl
        rfl
    · rintro bytes rfl hother
      exact encodeUint_length_lt hother
  · intro bytes
    constructor
    · intro hwritten
      rw [← hwritten]
      exact encodeUint_length_le _
    · exact encodeUint_decodeUint

/-- Three bytes behind three zeros, and five bytes of which the first is lost. -/
theorem uint_shortest_paddedThree :
    (encodeUint 0x010203).length < [0, 0, 0, 1, 2, 3].length ∧
      encodeUint (decodeUint [0, 0, 0, 1, 2, 3]) = [1, 2, 3] ∧
        encodeUint (decodeUint [9, 0, 1, 2, 3]) ≠ [9, 0, 1, 2, 3] ∧
          (decodeUint [9, 0, 1, 2, 3]).toNat = 0x010203 := by
  obtain ⟨hnumber, hwritten, hagain, _⟩ := uint_shortest
  obtain ⟨_, _, _, hfewest⟩ := hwritten 0x010203
  refine ⟨hfewest [0, 0, 0, 1, 2, 3] (by decide) (by decide), ?_, ?_, ?_⟩
  · exact (hagain [0, 0, 0, 1, 2, 3]).mpr (by decide)
  · exact mt (hagain [9, 0, 1, 2, 3]).mp (by decide)
  · rw [hnumber]
    decide

end MeshTelemetry
