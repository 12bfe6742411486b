import MeshTelemetry.Telemetry.Header

/-!
# What becomes of a header

On its way a header is marked and counted on, and nothing else happens to it. So the subtype, the
bitmap and the control bits above the flag are those that it was made with. A marked header is not
counted on either: it keeps its sequence.
-/

namespace MeshTelemetry

namespace Control

theorem isOverflowed_setOverflowed (control : Control) :
    control.setOverflowed.isOverflowed = true := by
  have hmask : (control.bits ||| overflowMask) &&& overflowMask = overflowMask := by
    apply UInt8.eq_of_toBitVec_eq
    ext index hindex
    simp only [UInt8.toBitVec_and, UInt8.toBitVec_or, BitVec.getElem_and, BitVec.getElem_or]
    cases overflowMask.toBitVec[index] <;> simp
  rw [isOverflowed, setOverflowed, hmask]
  rfl

/-- The control bits that are not part of the flag. -/
def upperBits (control : Control) : UInt8 := control.bits &&& ~~~overflowMask

theorem upperBits_setOverflowed (control : Control) :
    control.setOverflowed.upperBits = control.upperBits := by
  apply UInt8.toNat_inj.mp
  simp only [upperBits, setOverflowed, UInt8.toNat_and, UInt8.toNat_or]
  rw [Nat.and_or_distrib_right]
  exact Nat.or_zero _

end Control

namespace TelemetryHeader

/-- What a header can have become: all is as it was but for the flag and the sequence, and with the
flag set the sequence is as it was too, and the flag is still set. -/
structure Precedes (before after : TelemetryHeader) : Prop where
  subtype : after.subtype = before.subtype
  bitmap : after.bitmap = before.bitmap
  upperBits : after.control.upperBits = before.control.upperBits
  marked : before.isOverflowed = true →
    after.isOverflowed = true ∧ after.sequence = before.sequence

theorem Precedes.refl (header : TelemetryHeader) : header.Precedes header :=
  ⟨rfl, rfl, rfl, fun hmarked => ⟨hmarked, rfl⟩⟩

theorem Precedes.trans {before between after : TelemetryHeader} (hfirst : before.Precedes between)
    (hsecond : between.Precedes after) : before.Precedes after where
  subtype := hsecond.subtype.trans hfirst.subtype
  bitmap := hsecond.bitmap.trans hfirst.bitmap
  upperBits := hsecond.upperBits.trans hfirst.upperBits
  marked := by
    intro hmarked
    obtain ⟨hbetween, hsame⟩ := hfirst.marked hmarked
    obtain ⟨hafter, hsequence⟩ := hsecond.marked hbetween
    exact ⟨hafter, hsequence.trans hsame⟩

theorem precedes_setOverflowed (header : TelemetryHeader) : header.Precedes header.setOverflowed where
  subtype := rfl
  bitmap := rfl
  upperBits := header.control.upperBits_setOverflowed
  marked := fun _ => ⟨header.control.isOverflowed_setOverflowed, rfl⟩

/-- Only a header without the flag may be counted on. -/
theorem precedes_counted {header : TelemetryHeader} (hunmarked : header.isOverflowed = false)
    (sequence : UInt8) : header.Precedes { header with sequence := sequence } where
  subtype := rfl
  bitmap := rfl
  upperBits := rfl
  marked := by
    intro hmarked
    rw [hunmarked] at hmarked
    cases hmarked

end TelemetryHeader

end MeshTelemetry
