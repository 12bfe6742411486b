import MeshTelemetry.Bytes
import MeshTelemetry.Message.Error

/-!
# Reading position

A reader of messages holds the bytes that are left and the offset of the first of them, which the
errors report. Taking bytes either moves the position past all of them or fails where it stands.
-/

namespace MeshTelemetry

structure Cursor where
  offset : Nat
  rest : Bytes
  deriving DecidableEq, Repr

namespace Cursor

/-- Takes the next `count` bytes, which belong to `field`. -/
def take (cursor : Cursor) (count : Nat) (field : Field) : Except CodecError (Bytes × Cursor) :=
  match splitExactly count cursor.rest with
  | some (head, rest) => .ok (head, ⟨cursor.offset + count, rest⟩)
  | none => .error (.truncated field cursor.offset)

theorem take_eq_ok_iff {cursor after : Cursor} {count : Nat} {field : Field} {head : Bytes} :
    cursor.take count field = .ok (head, after) ↔
      cursor.rest = head ++ after.rest ∧ head.length = count ∧
        after.offset = cursor.offset + count := by
  obtain ⟨offset, rest⟩ := cursor
  obtain ⟨afterOffset, afterRest⟩ := after
  unfold take
  cases hsplit : splitExactly count rest with
  | none =>
    rw [splitExactly_eq_none_iff] at hsplit
    simp only [reduceCtorEq, false_iff, not_and]
    rintro rfl rfl
    simp only [List.length_append] at hsplit
    omega
  | some parts =>
    obtain ⟨h, r⟩ := parts
    have hparts := splitExactly_eq_some_iff.mp hsplit
    simp only [Except.ok.injEq, Prod.mk.injEq, Cursor.mk.injEq]
    constructor
    · rintro ⟨rfl, rfl, rfl⟩
      exact ⟨hparts.1, hparts.2, rfl⟩
    · rintro ⟨hrest, hlen, rfl⟩
      obtain ⟨rfl, rfl⟩ := List.append_inj (hparts.1.symm.trans hrest) (hparts.2.trans hlen.symm)
      exact ⟨rfl, rfl, rfl⟩

theorem take_rest_length_le {cursor after : Cursor} {count : Nat} {field : Field} {head : Bytes}
    (h : cursor.take count field = .ok (head, after)) :
    after.rest.length ≤ cursor.rest.length := by
  rw [(take_eq_ok_iff.mp h).1]
  simp

end Cursor

end MeshTelemetry
