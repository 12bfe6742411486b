import MeshTelemetry.Proofs.Element.Tiling

/-!
# The first telemetry

A search gives one of three answers, and each can be told from the bytes. Where elements that are
passed over lead to telemetry, the search finds it, and whatever follows counts only as far as it
starts with a termination. Where the walk meets no telemetry, the search ends as the walk does. And
the other way round, the bytes in front of what was found are elements that were passed over, so that
nothing before it could have been found instead, and what was found lies within the bytes.
-/

namespace MeshTelemetry

namespace WalkItem

def error? : WalkItem → Option TelemetryError
  | .error err => some err
  | .ok _ => none

end WalkItem

theorem terminationLength_eq (after : Bytes) :
    terminationLength after
      = if payloadTermination <+: after then payloadTermination.length else 0 := by
  rw [terminationLength]
  refine if_congr ?_ rfl rfl
  rw [List.prefix_iff_eq_take, eq_comm]
  rfl

theorem terminationLength_le (after : Bytes) : terminationLength after ≤ after.length := by
  rw [terminationLength_eq]
  split
  · rename_i hclosed
    exact hclosed.length_le
  · exact Nat.zero_le _

namespace ElementWalk

/-- The errors among the items of a walk. -/
def errorsOf (items : List (WalkItem × ElementWalk)) : List TelemetryError :=
  items.filterMap fun step => step.1.error?

section

variable {walk after : ElementWalk} {subtype : UInt8}

/-- An error is the last item of a walk. -/
theorem run_of_error {err : TelemetryError} (h : walk.next? = some (.error err, after)) :
    walk.run.1 = [(.error err, after)] := by
  have hended : after.ended = true := by
    unfold next? at h
    split at h
    · cases h
    · split at h
      · cases h
      · cases h
        rfl
  rw [run_of_some h, run_of_none (next?_of_ended hended)]

/-- A search without success ends as the walk does. -/
theorem findTelemetry_of_absent
    (h : ∀ element ∈ elementsOf walk.run.1, element.isTelemetry subtype = false) :
    (errorsOf walk.run.1 = [] ∧ walk.findTelemetry subtype = .ok none) ∨
      ∃ err, errorsOf walk.run.1 = [err] ∧ walk.findTelemetry subtype = .error err := by
  induction walk using ElementWalk.findTelemetry.induct subtype with
  | case1 walk hnext =>
    rw [run_of_none hnext]
    exact .inl ⟨rfl, findTelemetry_of_end hnext⟩
  | case2 walk err after hnext =>
    rw [run_of_error hnext]
    exact .inr ⟨err, rfl, findTelemetry_of_error hnext⟩
  | case3 walk offset element after hnext _ hfound =>
    rw [run_of_some hnext, elementsOf_cons_ok, List.forall_mem_cons] at h
    rw [h.1] at hfound
    cases hfound
  | case4 walk offset element after hnext _ hother ih =>
    rw [run_of_some hnext, elementsOf_cons_ok, List.forall_mem_cons] at h
    rw [run_of_some hnext, findTelemetry_of_element hnext, if_neg hother]
    exact ih h.2

end

end ElementWalk

open ElementWalk (elementsOf errorsOf findTelemetry_of_absent ofBytes)

/-- The elements in front of what was found were passed over, and its element is written behind
them. -/
theorem exists_passedOver_of_findTelemetry {subtype : UInt8} {bytes : Bytes} {span : TelemetrySpan}
    (h : findTelemetry bytes subtype = .ok (some span)) :
    ∃ passed after, PassedOver subtype passed ∧ span.content.head? = some subtype ∧
      bytes = passed.flatMap Element.encode
        ++ ((Element.payload ietfGroup span.content).encode ++ after) ∧
      span = .ofElement (passed.flatMap Element.encode).length
        (.payload ietfGroup span.content) after := by
  obtain ⟨passed, rest, answer, hpassed, rfl, hstops⟩ := exists_passedOver_stops subtype bytes
  rw [findTelemetry_of_stops hpassed hstops] at h
  cases hstops with
  | exhausted | ended | cut => cases h
  | @found content after _ hhead =>
    cases h
    exact ⟨passed, after, hpassed, hhead, rfl, rfl⟩

theorem Element.append_encode (element : Element) (before after : Bytes) :
    before ++ (element.encode ++ after)
      = before ++ bytesLE descriptorSize element.descriptor ++ element.content ++ after := by
  simp only [encode, List.append_assoc]

theorem TelemetrySpan.extract_ofElement (element : Element) (before after : Bytes) :
    (before ++ (element.encode ++ after)).extract (ofElement before.length element after).start
      (ofElement before.length element after).stop = element.content := by
  have hstart : (before ++ bytesLE descriptorSize element.descriptor).length
      = before.length + descriptorSize := by
    rw [List.length_append, bytesLE_length]
  simp only [stop, ofElement]
  rw [element.append_encode, List.append_assoc, ← hstart, List.extract_eq_take_drop,
    Nat.add_sub_cancel_left, List.drop_left, List.take_left]

/-- **The search finds the first telemetry.** Whatever stands behind the element, it is found behind
any elements that are passed over, and the list ends with it or with the termination that follows at
once. A walk without telemetry gives its own answer: an error if it meets one. What is found is the
first telemetry of the bytes, and it lies within them, its list included. -/
theorem findTelemetry_finds_first (subtype : UInt8) :
    (∀ passed content after, PassedOver subtype passed → content.head? = some subtype →
      content.length ≤ maxPayloadContent →
        ∃ descriptor span, ietfDescriptor content.length = .ok descriptor ∧
          findTelemetry (passed.flatMap Element.encode ++ descriptor ++ content ++ after) subtype
            = .ok (some span) ∧
          span.start = (passed.flatMap Element.encode).length + descriptorSize ∧
            span.content = content ∧
              span.listLength = span.stop
                + if payloadTermination <+: after then payloadTermination.length else 0) ∧
    ∀ bytes,
      ((∀ element ∈ elementsOf (ofBytes bytes).run.1, element.isTelemetry subtype = false) →
        (errorsOf (ofBytes bytes).run.1 = [] ∧ findTelemetry bytes subtype = .ok none) ∨
          ∃ err, errorsOf (ofBytes bytes).run.1 = [err] ∧
            findTelemetry bytes subtype = .error err) ∧
      ∀ span, findTelemetry bytes subtype = .ok (some span) →
        (∃ passed after, PassedOver subtype passed ∧ span.content.head? = some subtype ∧
          bytes = passed.flatMap Element.encode
            ++ ((Element.payload ietfGroup span.content).encode ++ after)) ∧
        bytes.extract span.start span.stop = span.content ∧
          descriptorSize ≤ span.start ∧ span.stop ≤ span.listLength ∧
            span.listLength ≤ bytes.length := by
  refine ⟨?_, ?_⟩
  · intro passed content after hpassed hhead hfits
    have hdescriptor : ietfDescriptor content.length
        = .ok (bytesLE descriptorSize (Element.payload ietfGroup content).descriptor) := by
      rw [ietfDescriptor, if_neg (Nat.not_lt.mpr hfits)]
      rfl
    refine ⟨_, .ofElement (passed.flatMap Element.encode).length (.payload ietfGroup content) after,
      hdescriptor, ?_, rfl, rfl, ?_⟩
    · have hbytes := (Element.payload ietfGroup content).append_encode
        (passed.flatMap Element.encode) after
      have hfound := findTelemetry_of_stops hpassed (.found after hfits hhead)
      rw [hbytes] at hfound
      exact hfound
    · rw [← terminationLength_eq]
      rfl
  · intro bytes
    refine ⟨findTelemetry_of_absent, ?_⟩
    intro span hspan
    obtain ⟨passed, after, hpassed, hhead, hbytes, heq⟩ := exists_passedOver_of_findTelemetry hspan
    have hafter := terminationLength_le after
    refine ⟨⟨passed, after, hpassed, hhead, hbytes⟩, ?_, ?_, ?_, ?_⟩
    · rw [hbytes, heq]
      exact TelemetrySpan.extract_ofElement _ _ after
    · rw [heq]
      exact Nat.le_add_left _ _
    · rw [heq]
      exact Nat.le_add_right _ _
    · rw [heq, hbytes, List.length_append, List.length_append, Element.encode_length]
      simp only [TelemetrySpan.ofElement, Element.content]
      omega

/-- An empty element of the group and one of another subtype are passed over. What follows the
telemetry looks like an element that is cut, which the search would report if it came to it. -/
theorem findTelemetry_finds_first_cutBehind :
    PassedOver 0x2A [.header 0x7E [], .payload ietfGroup [], .payload ietfGroup [0x2B, 0x2A]] ∧
      (∃ span, findTelemetry
          [0x00, 0x3F, 0x00, 0xA8, 0x02, 0xA8, 0x2B, 0x2A, 0x02, 0xA8, 0x2A, 0x07, 0x00, 0xF8, 0xFF,
            0xAF] 0x2A = .ok (some span) ∧
        span.start = 10 ∧ span.content = [0x2A, 0x07] ∧ span.listLength = 14) ∧
      findTelemetry [0xFF, 0xAF] 0x2A = .error (.malformedElement 0 .contentOverrun) := by
  have hpassed : PassedOver 0x2A
      [.header 0x7E [], .payload ietfGroup [], .payload ietfGroup [0x2B, 0x2A]] := by
    unfold PassedOver
    decide
  obtain ⟨hfinds, hends⟩ := findTelemetry_finds_first 0x2A
  obtain ⟨descriptor, span, hdescriptor, hfound, hstart, hcontent, hlength⟩ :=
    hfinds _ [0x2A, 0x07] [0x00, 0xF8, 0xFF, 0xAF] hpassed rfl (by decide)
  obtain rfl : [0x02, 0xA8] = descriptor := Except.ok.inj hdescriptor
  have hstop : span.stop = 12 := by
    rw [TelemetrySpan.stop, hstart, hcontent]
    rfl
  have habsent : ∀ element ∈ elementsOf (ofBytes [0xFF, 0xAF]).run.1,
      element.isTelemetry 0x2A = false := by decide +kernel
  have herrors : errorsOf (ofBytes [0xFF, 0xAF]).run.1
      = [.malformedElement 0 .contentOverrun] := by decide +kernel
  refine ⟨hpassed, ⟨span, hfound, hstart, hcontent, ?_⟩, ?_⟩
  · rw [hlength, hstop]
    decide
  · rcases (hends [0xFF, 0xAF]).1 habsent with ⟨hnone, _⟩ | ⟨err, hsome, herror⟩
    · rw [herrors] at hnone
      cases hnone
    · rw [herrors] at hsome
      cases hsome
      exact herror

end MeshTelemetry
