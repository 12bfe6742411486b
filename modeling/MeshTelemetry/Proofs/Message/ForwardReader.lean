import MeshTelemetry.Message.Decoding
import MeshTelemetry.Proofs.Result

/-!
# Readers that take their input from the front

A reader of messages never looks beyond the bytes that it takes. So what it makes of them, be it a
value or a fault, is the same whatever follows, and only running out of input is undone by more of
it. The place it then names lies between where it began and the end of the input. Both facts pass
from the steps of a reader to the whole, which is why they are one notion here.
-/

namespace MeshTelemetry

/-- Whether the input was too short to tell what it is. -/
def CodecError.isCut : CodecError → Bool
  | messageTooShort _ _ | truncated _ _ => true
  | _ => false

namespace Cursor

/-- The cursor with more input behind the bytes that are left. -/
def extend (cursor : Cursor) (more : Bytes) : Cursor where
  offset := cursor.offset
  rest := cursor.rest ++ more

/-- The offset of the input's end. -/
def stop (cursor : Cursor) : Nat := cursor.offset + cursor.rest.length

/-- Bytes are only ever refused for being too few. -/
theorem eq_of_take_eq_error {cursor : Cursor} {count : Nat} {field : Field} {err : CodecError}
    (h : cursor.take count field = .error err) : err = .truncated field cursor.offset := by
  unfold take at h
  split at h
  · cases h
  · cases h
    rfl

end Cursor

/-- The reader takes bytes from the front only. It moves towards an end that stays where it is, it
reports a cut at a place on the way there, and all its other errors are faults of the bytes that it
has seen. -/
structure ReadsForward {α : Type} (read : Cursor → Except CodecError (α × Cursor))
    (fault : CodecError → Prop) : Prop where
  ok {cursor after : Cursor} {value : α} : read cursor = .ok (value, after) →
    (cursor.offset ≤ after.offset ∧ after.stop = cursor.stop) ∧
      ∀ more, read (cursor.extend more) = .ok (value, after.extend more)
  error {cursor : Cursor} {err : CodecError} : read cursor = .error err →
    (∃ field offset, err = .truncated field offset ∧
      cursor.offset ≤ offset ∧ offset ≤ cursor.stop) ∨
    fault err ∧ ∀ more, read (cursor.extend more) = .error err

section

variable {α β : Type} {fault : CodecError → Prop}

theorem ReadsForward.mono {read : Cursor → Except CodecError (α × Cursor)}
    {wider : CodecError → Prop} (hread : ReadsForward read fault)
    (hwider : ∀ err, fault err → wider err) : ReadsForward read wider where
  ok := hread.ok
  error h := (hread.error h).imp_right fun ⟨hfault, hmore⟩ => ⟨hwider _ hfault, hmore⟩

theorem readsForward_value (value : α) : ReadsForward (fun cursor => .ok (value, cursor)) fault where
  ok h := by
    cases h
    exact ⟨⟨Nat.le_refl _, rfl⟩, fun _ => rfl⟩
  error h := by cases h

theorem readsForward_fault {err : CodecError} (hfault : fault err) :
    ReadsForward (fun _ => (.error err : Except CodecError (α × Cursor))) fault where
  ok h := by cases h
  error h := by
    cases h
    exact .inr ⟨hfault, fun _ => rfl⟩

/-- One reader after another. -/
theorem ReadsForward.bind {first : Cursor → Except CodecError (α × Cursor)}
    {next : α → Cursor → Except CodecError (β × Cursor)} (hfirst : ReadsForward first fault)
    (hnext : ∀ value, ReadsForward (next value) fault) :
    ReadsForward (fun cursor => first cursor >>= fun taken => next taken.1 taken.2) fault where
  ok {cursor after value} h := by
    obtain ⟨⟨taken, middle⟩, htaken, h⟩ := bind_eq_ok_iff.mp h
    obtain ⟨⟨hmiddle, hstop⟩, hmore⟩ := hfirst.ok htaken
    obtain ⟨⟨hafter, hend⟩, hagain⟩ := (hnext taken).ok h
    refine ⟨⟨Nat.le_trans hmiddle hafter, hend.trans hstop⟩, fun more => ?_⟩
    rw [hmore, ok_bind]
    exact hagain more
  error {cursor err} h := by
    cases htaken : first cursor with
    | error cause =>
      rw [htaken] at h
      cases h
      refine (hfirst.error htaken).imp_right fun ⟨hfault, hmore⟩ => ⟨hfault, fun more => ?_⟩
      rw [hmore, error_bind]
    | ok result =>
      obtain ⟨taken, middle⟩ := result
      rw [htaken, ok_bind] at h
      obtain ⟨⟨hmiddle, hstop⟩, hmore⟩ := hfirst.ok htaken
      rcases (hnext taken).error h with ⟨field, offset, rfl, hle, hend⟩ | ⟨hfault, hagain⟩
      · exact .inl ⟨field, offset, rfl, Nat.le_trans hmiddle hle, hstop ▸ hend⟩
      · refine .inr ⟨hfault, fun more => ?_⟩
        rw [hmore, ok_bind]
        exact hagain more

theorem readsForward_take (count : Nat) (field : Field) :
    ReadsForward (fun cursor => cursor.take count field) fault where
  ok {cursor after head} h := by
    obtain ⟨hrest, hlength, hoffset⟩ := Cursor.take_eq_ok_iff.mp h
    refine ⟨⟨by omega, ?_⟩, fun more => Cursor.take_eq_ok_iff.mpr ⟨?_, hlength, hoffset⟩⟩
    · rw [Cursor.stop, Cursor.stop, hrest, hoffset, List.length_append, hlength]
      omega
    · rw [Cursor.extend, hrest, List.append_assoc]
      rfl
  error {cursor err} h := by
    cases Cursor.eq_of_take_eq_error h
    exact .inl ⟨field, cursor.offset, rfl, Nat.le_refl _, Nat.le_add_right _ _⟩

end

/-- A number in an option's header is at fault only if its nibble is the reserved one. -/
theorem Extended.readsForward_read (nibble : Nat) (field : Field) (start : Nat) :
    ReadsForward (read nibble field start) fun err => err = .reservedNibble start ∧ 14 < nibble := by
  by_cases hshort : nibble < oneByteBase
  · have hread : read nibble field start = fun cursor => .ok (nibble, cursor) := by
      funext cursor
      rw [read, if_pos hshort]
    rw [hread]
    exact readsForward_value nibble
  by_cases hone : nibble = 13
  · subst hone
    exact (readsForward_take 1 field).bind fun bytes =>
      readsForward_value (oneByteBase + natOfBytesBE bytes)
  by_cases htwo : nibble = 14
  · subst htwo
    exact (readsForward_take 2 field).bind fun bytes =>
      readsForward_value (twoByteBase + natOfBytesBE bytes)
  · have hread : read nibble field start = fun _ => .error (.reservedNibble start) := by
      funext cursor
      rw [read, if_neg hshort, if_neg hone, if_neg htwo]
    have hreserved : 14 < nibble := by
      unfold oneByteBase at hshort
      omega
    rw [hread]
    exact readsForward_fault ⟨rfl, hreserved⟩

/-- Either nibble of the first byte can be the reserved one. -/
def ReservedNibble (first : UInt8) : Prop := 14 < first.toNat / 16 ∨ 14 < first.toNat % 16

theorem OptionHeader.readsForward_read (first : UInt8) (start : Nat) :
    ReadsForward (read first start) fun err =>
      err = .reservedNibble start ∧ ReservedNibble first := by
  have hdelta : ReadsForward (Extended.read (first.toNat / 16) .optionDelta start) fun err =>
      err = .reservedNibble start ∧ ReservedNibble first :=
    (Extended.readsForward_read _ _ start).mono fun _ h => ⟨h.1, .inl h.2⟩
  have hlength : ReadsForward (Extended.read (first.toNat % 16) .optionLength start) fun err =>
      err = .reservedNibble start ∧ ReservedNibble first :=
    (Extended.readsForward_read _ _ start).mono fun _ h => ⟨h.1, .inr h.2⟩
  exact hdelta.bind fun delta => hlength.bind fun length =>
    readsForward_value (OptionHeader.mk delta length)

/-- The reader of one item takes it from the front. No telemetry block is at fault. -/
theorem readsForward_readItem (first : UInt8) (start : Nat) :
    ReadsForward (readItem first start) fun err =>
      err = .reservedNibble start ∧ first ≠ telemetryMarker ∧ ReservedNibble first := by
  by_cases hmarker : first = telemetryMarker
  · have hread : readItem first start = fun cursor =>
        cursor.take 1 .telemetryLength >>= fun length =>
          length.2.take (natOfBytesBE length.1) .telemetryBlock >>= fun block =>
            .ok (.block block.1, block.2) := by
      funext cursor
      rw [readItem, if_pos hmarker]
      rfl
    rw [hread]
    exact (readsForward_take 1 .telemetryLength).bind fun length =>
      (readsForward_take (natOfBytesBE length) .telemetryBlock).bind fun block =>
        readsForward_value (Item.block block)
  · have hread : readItem first start = fun cursor =>
        OptionHeader.read first start cursor >>= fun header =>
          header.2.take header.1.length .optionValue >>= fun value =>
            .ok (.option header.1.delta value.1, value.2) := by
      funext cursor
      rw [readItem, if_neg hmarker]
      rfl
    rw [hread]
    exact ((OptionHeader.readsForward_read first start).mono fun _ h => ⟨h.1, hmarker, h.2⟩).bind
      fun header => (readsForward_take header.length .optionValue).bind fun value =>
        readsForward_value (Item.option header.delta value)

end MeshTelemetry
