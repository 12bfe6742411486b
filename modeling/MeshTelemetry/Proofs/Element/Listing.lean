import MeshTelemetry.Proofs.Element.Walk

/-!
# What stops a walk

Any bytes start with elements that a search for telemetry passes over, be it none. What stands behind
them stops the search: the end of the bytes, an element that ends the list, telemetry, or an element
that is cut. Since reading an element undoes writing it, the answer of the search tells which of the
four it was, and where.
-/

namespace MeshTelemetry

namespace Element

theorem encode_length (element : Element) :
    element.encode.length = descriptorSize + element.content.length := by
  rw [encode, List.length_append, bytesLE_length]

/-- Bytes that start an element and end before it does. -/
inductive Cut : Bytes → ElementFault → Prop where
  | descriptor (low : UInt8) : Cut [low] .descriptorTruncated
  | content {element : Element} {held : Bytes} :
      element.content.length ≤ element.contentLimit →
      held.length < element.content.length →
      Cut (bytesLE descriptorSize element.descriptor ++ held) .contentOverrun

section

variable {descriptor : Nat} {content : Bytes}

theorem content_ofDescriptor (descriptor : Nat) (content : Bytes) :
    (ofDescriptor descriptor content).content = content := by
  unfold ofDescriptor
  split <;> rfl

theorem content_length_ofDescriptor_le (hlength : content.length = declaredLength descriptor) :
    (ofDescriptor descriptor content).content.length
      ≤ (ofDescriptor descriptor content).contentLimit := by
  rw [content_ofDescriptor, hlength]
  by_cases hheader : descriptor < payloadBit
  · simp only [ofDescriptor, declaredLength, if_pos hheader, contentLimit, maxHeaderContent]
    omega
  · simp only [ofDescriptor, declaredLength, if_neg hheader, contentLimit, maxPayloadContent]
    omega

theorem descriptor_ofDescriptor (hword : descriptor < 65536)
    (hlength : content.length = declaredLength descriptor) :
    (ofDescriptor descriptor content).descriptor = descriptor := by
  by_cases hheader : descriptor < payloadBit
  · rw [declaredLength, if_pos hheader] at hlength
    have hid : (UInt8.ofNat (descriptor / 0x80)).toNat = descriptor / 0x80 := by
      simp only [payloadBit] at hheader
      rw [UInt8.toNat_ofNat_of_lt' (by simp only [UInt8.size]; omega)]
    simp only [ofDescriptor, if_pos hheader, Element.descriptor, hid, hlength]
    omega
  · rw [declaredLength, if_neg hheader] at hlength
    rw [ofDescriptor, if_neg hheader]
    simp only [payloadBit, Element.descriptor, lowNibble, hlength] at hheader ⊢
    omega

end

theorem bytesLE_descriptor_ofDescriptor {low high : UInt8} {content : Bytes}
    (hlength : content.length = declaredLength (natOfBytesLE [low, high])) :
    bytesLE descriptorSize (ofDescriptor (natOfBytesLE [low, high]) content).descriptor
      = [low, high] := by
  have hword : natOfBytesLE [low, high] < 65536 := by simpa using natOfBytesLE_lt [low, high]
  rw [descriptor_ofDescriptor hword hlength]
  exact bytesLE_natOfBytesLE (Nat.le_refl 2)

/-- An element is read exactly where one was written. -/
theorem read_eq_ok_iff {offset : Nat} {bytes rest : Bytes} {element : Element} :
    read offset bytes = .ok (element, rest) ↔
      element.content.length ≤ element.contentLimit ∧ bytes = element.encode ++ rest := by
  constructor
  · intro h
    match bytes with
    | [] | [_] => cases h
    | low :: high :: tail =>
      simp only [read] at h
      split at h
      · rename_i content after hsplit
        obtain ⟨rfl, hlength⟩ := splitExactly_eq_some_iff.mp hsplit
        cases h
        refine ⟨content_length_ofDescriptor_le hlength, ?_⟩
        rw [encode, content_ofDescriptor, bytesLE_descriptor_ofDescriptor hlength]
        rfl
      · cases h
  · rintro ⟨hfits, rfl⟩
    exact read_encode hfits offset rest

/-- Reading fails exactly on a cut element, and the fault tells what is cut. -/
theorem read_eq_error_iff {offset : Nat} {bytes : Bytes} (hsome : bytes ≠ [])
    {err : TelemetryError} :
    read offset bytes = .error err ↔
      ∃ fault, Cut bytes fault ∧ err = .malformedElement offset fault := by
  constructor
  · intro h
    match bytes with
    | [] => exact absurd rfl hsome
    | [low] =>
      cases h
      exact ⟨_, .descriptor low, rfl⟩
    | low :: high :: tail =>
      simp only [read] at h
      split at h
      · cases h
      · rename_i hsplit
        cases h
        rw [splitExactly_eq_none_iff] at hsplit
        -- Any content of the declared length makes an element that these bytes start.
        let content : Bytes := List.replicate (declaredLength (natOfBytesLE [low, high])) 0
        have hlength : content.length = declaredLength (natOfBytesLE [low, high]) :=
          List.length_replicate
        refine ⟨_, ?_, rfl⟩
        have hcut := @Cut.content (ofDescriptor (natOfBytesLE [low, high]) content) tail
          (content_length_ofDescriptor_le hlength) (by rwa [content_ofDescriptor, hlength])
        rwa [bytesLE_descriptor_ofDescriptor hlength] at hcut
  · rintro ⟨fault, hcut, rfl⟩
    cases hcut with
    | descriptor low => rfl
    | @content element held hfits hshort =>
      have hword : natOfBytesLE (bytesLE descriptorSize element.descriptor)
          = element.descriptor := by
        rw [natOfBytesLE_bytesLE]
        exact Nat.mod_eq_of_lt (descriptor_lt hfits)
      have hsplit : splitExactly (declaredLength element.descriptor) held = none := by
        rw [splitExactly_eq_none_iff, declaredLength_descriptor hfits]
        exact hshort
      simp only [descriptorSize, bytesLE] at hword
      simp only [descriptorSize, bytesLE, List.cons_append, List.nil_append, read, hword, hsplit]

end Element

/-- Elements that a search for telemetry of the subtype passes over: whole ones without it, none of
which ends the list. -/
def PassedOver (subtype : UInt8) (elements : List Element) : Prop :=
  ∀ element ∈ elements, element.content.length ≤ element.contentLimit ∧
    element.isTelemetry subtype = false ∧ element.endsList = false

/-- What stops the search at the start of these bytes, and its answer: a fault, or the content of the
telemetry with what lies behind its element, or nothing. -/
inductive Stops (subtype : UInt8) : Bytes → Except ElementFault (Option (Bytes × Bytes)) → Prop where
  | exhausted : Stops subtype [] (.ok none)
  | ended {element : Element} (after : Bytes) :
      element.content.length ≤ element.contentLimit → element.isTelemetry subtype = false →
      element.endsList = true → Stops subtype (element.encode ++ after) (.ok none)
  | cut {bytes : Bytes} {fault : ElementFault} :
      Element.Cut bytes fault → Stops subtype bytes (.error fault)
  | found {content : Bytes} (after : Bytes) :
      content.length ≤ maxPayloadContent → content.head? = some subtype →
      Stops subtype ((Element.payload ietfGroup content).encode ++ after) (.ok (some (content, after)))

theorem Element.isTelemetry_eq_true_iff {element : Element} {subtype : UInt8} :
    element.isTelemetry subtype = true ↔
      ∃ content, element = .payload ietfGroup content ∧ content.head? = some subtype := by
  cases element with
  | header id content => simp [isTelemetry]
  | payload group content => simp [isTelemetry]

/-- Any bytes are elements that are passed over and something that stops the search. -/
theorem exists_passedOver_stops (subtype : UInt8) (bytes : Bytes) :
    ∃ passed rest answer, PassedOver subtype passed ∧
      bytes = passed.flatMap Element.encode ++ rest ∧ Stops subtype rest answer := by
  -- On the length: an element takes as many bytes as it declares, not one after another.
  induction hlength : bytes.length using Nat.strongRecOn generalizing bytes with
  | ind length ih =>
    have hnone : PassedOver subtype [] := fun _ hmem => nomatch hmem
    by_cases hempty : bytes = []
    · subst hempty
      exact ⟨[], [], _, hnone, rfl, .exhausted⟩
    · cases hread : Element.read 0 bytes with
      | error err =>
        obtain ⟨fault, hcut, _⟩ := (Element.read_eq_error_iff hempty).mp hread
        exact ⟨[], bytes, _, hnone, rfl, .cut hcut⟩
      | ok item =>
        obtain ⟨element, after⟩ := item
        obtain ⟨hfits, rfl⟩ := Element.read_eq_ok_iff.mp hread
        cases htelemetry : element.isTelemetry subtype with
        | true =>
          obtain ⟨content, rfl, hhead⟩ := Element.isTelemetry_eq_true_iff.mp htelemetry
          exact ⟨[], _, _, hnone, rfl, .found after hfits hhead⟩
        | false =>
          cases hends : element.endsList with
          | true => exact ⟨[], _, _, hnone, rfl, .ended after hfits htelemetry hends⟩
          | false =>
            have hshorter : after.length < length := by
              rw [← hlength]
              exact Element.read_rest_length_lt hread
            obtain ⟨passed, rest, answer, hpassed, rfl, hstops⟩ := ih _ hshorter after rfl
            refine ⟨element :: passed, rest, answer, ?_, ?_, hstops⟩
            · exact List.forall_mem_cons.mpr ⟨⟨hfits, htelemetry, hends⟩, hpassed⟩
            · rw [List.flatMap_cons, List.append_assoc]

namespace ElementWalk

/-- A walk comes to stand behind the elements that it passes over. -/
theorem findTelemetry_passedOver {subtype : UInt8} {passed : List Element}
    (h : PassedOver subtype passed) (position : Nat) (rest : Bytes) :
    findTelemetry ⟨passed.flatMap Element.encode ++ rest, position, false⟩ subtype
      = findTelemetry ⟨rest, position + (passed.flatMap Element.encode).length, false⟩ subtype := by
  induction passed generalizing position with
  | nil => rfl
  | cons element passed ih =>
    obtain ⟨⟨hfits, hother, hgoes⟩, hpassed⟩ := List.forall_mem_cons.mp h
    rw [List.flatMap_cons, List.append_assoc, findTelemetry_skip hfits hother, hgoes, ih hpassed,
      List.length_append, Element.encode_length]
    congr 2
    omega

/-- The answer in terms of the position at which the search stops. -/
def answerAt (position : Nat) :
    Except ElementFault (Option (Bytes × Bytes)) → Except TelemetryError (Option TelemetrySpan)
  | .error fault => .error (.malformedElement position fault)
  | .ok none => .ok none
  | .ok (some (content, after)) =>
    .ok (some (.ofElement position (.payload ietfGroup content) after))

theorem findTelemetry_stops {subtype : UInt8} {bytes : Bytes}
    {answer : Except ElementFault (Option (Bytes × Bytes))} (h : Stops subtype bytes answer)
    (position : Nat) :
    findTelemetry ⟨bytes, position, false⟩ subtype = answerAt position answer := by
  cases h with
  | exhausted => exact findTelemetry_of_end rfl
  | @ended element after hfits hother hends =>
    rw [findTelemetry_skip hfits hother, hends]
    exact findTelemetry_of_end rfl
  | @cut _ fault hcut =>
    have hsome : bytes ≠ [] := by
      rintro rfl
      cases hcut
    have hread : Element.read position bytes = .error (.malformedElement position fault) :=
      (Element.read_eq_error_iff hsome).mpr ⟨fault, hcut, rfl⟩
    have hnext : next? ⟨bytes, position, false⟩
        = some (.error (.malformedElement position fault), ⟨bytes, position, true⟩) := by
      simp [next?, hread, hsome]
    exact findTelemetry_of_error hnext
  | @found content after hfits hhead =>
    have htelemetry : (Element.payload ietfGroup content).isTelemetry subtype = true :=
      Element.isTelemetry_eq_true_iff.mpr ⟨content, rfl, hhead⟩
    exact @findTelemetry_stop (.payload ietfGroup content) subtype hfits htelemetry position after

end ElementWalk

/-- The search answers what stops it. -/
theorem findTelemetry_of_stops {subtype : UInt8} {passed : List Element} {rest : Bytes}
    {answer : Except ElementFault (Option (Bytes × Bytes))} (hpassed : PassedOver subtype passed)
    (hstops : Stops subtype rest answer) :
    findTelemetry (passed.flatMap Element.encode ++ rest) subtype
      = ElementWalk.answerAt (passed.flatMap Element.encode).length answer := by
  rw [findTelemetry, ElementWalk.ofBytes, ElementWalk.findTelemetry_passedOver hpassed,
    ElementWalk.findTelemetry_stops hstops, Nat.zero_add]

end MeshTelemetry
