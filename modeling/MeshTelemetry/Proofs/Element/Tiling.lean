import MeshTelemetry.Proofs.Element.Listing

/-!
# Elements tile the bytes

A walk goes through the bytes in step: each element starts where the one before it ended, the first
at the very front, and written again it is the bytes that it was read from. The walk stops at the
end, behind an element that ends the list, or in front of one that is cut, and from then on it stays
where it is. So the elements written one after another are the bytes that the walk has passed, and a
list that was written is read back element by element.
-/

namespace MeshTelemetry

def WalkItem.element? (item : WalkItem) : Option Element := item.toOption.map Prod.snd

/-- The element lies in the bytes between these positions: there stands its descriptor, made from
its kind, its id or group and the length of its content, and then the content. -/
structure Element.LiesIn (element : Element) (bytes : Bytes) (start stop : Nat) : Prop where
  fits : element.content.length ≤ element.contentLimit
  stop_eq : stop = start + element.encode.length
  spelled : bytes.extract start stop = element.encode

section

variable {element : Element} {bytes rest : Bytes} {start stop : Nat}

theorem Element.liesIn_of_drop (hfits : element.content.length ≤ element.contentLimit)
    (hdrop : bytes.drop start = element.encode ++ rest) :
    element.LiesIn bytes start (start + element.encode.length) := by
  refine ⟨hfits, rfl, ?_⟩
  rw [List.extract_eq_take_drop, hdrop, Nat.add_sub_cancel_left, List.take_left]

theorem Element.LiesIn.take_eq (h : element.LiesIn bytes start stop) :
    bytes.take stop = bytes.take start ++ element.encode := by
  obtain ⟨_, rfl, hspelled⟩ := h
  rw [List.extract_eq_take_drop, Nat.add_sub_cancel_left] at hspelled
  rw [List.take_add, hspelled]

end

namespace ElementWalk

/-- The elements among the items of a walk. -/
def elementsOf (items : List (WalkItem × ElementWalk)) : List Element :=
  items.filterMap fun step => step.1.element?

/-- What a walk through the bytes yields from one position on, each item with the walk behind it,
and the position at which it stays in the end. -/
inductive Tiles (bytes : Bytes) : Nat → List (WalkItem × ElementWalk) → Nat → Prop where
  | exhausted : Tiles bytes bytes.length [] bytes.length
  | cut {position : Nat} {fault : ElementFault} {behind : ElementWalk} :
      Element.Cut (bytes.drop position) fault → behind.position = position →
      Tiles bytes position [(.error (.malformedElement position fault), behind)] position
  | closed {position : Nat} {element : Element} {behind : ElementWalk} :
      element.LiesIn bytes position behind.position → element.endsList = true →
      Tiles bytes position [(.ok (position, element), behind)] behind.position
  | passed {position final : Nat} {element : Element} {behind : ElementWalk}
      {items : List (WalkItem × ElementWalk)} :
      element.LiesIn bytes position behind.position → element.endsList = false →
      Tiles bytes behind.position items final →
      Tiles bytes position ((.ok (position, element), behind) :: items) final

/-- The answers to so many requests for the next item, and the walk after them. A walk that has
nothing to yield stays as it is. -/
def ask (walk : ElementWalk) : Nat → List (Option WalkItem) × ElementWalk
  | 0 => ([], walk)
  | count + 1 =>
    match walk.next? with
    | some (item, after) =>
      let (answers, final) := after.ask count
      (some item :: answers, final)
    | none =>
      let (answers, final) := walk.ask count
      (none :: answers, final)

section

variable {walk after : ElementWalk} {item : WalkItem}

theorem run_of_none (h : walk.next? = none) : walk.run = ([], walk) := by
  rw [run]
  split
  · rfl
  · rename_i hnext
    rw [h] at hnext
    cases hnext

theorem run_of_some (h : walk.next? = some (item, after)) :
    walk.run = ((item, after) :: after.run.1, after.run.2) := by
  rw [run]
  split
  · rename_i hnext
    rw [h] at hnext
    cases hnext
  · rename_i hnext
    rw [h] at hnext
    cases hnext
    rfl

theorem next?_of_ended (h : walk.ended = true) : walk.next? = none := by
  rw [next?, h]
  rfl

theorem ask_of_none (h : walk.next? = none) (count : Nat) :
    walk.ask count = (List.replicate count none, walk) := by
  induction count with
  | zero => rfl
  | succ count ih =>
    rw [ask, h]
    simp only [ih, List.replicate_succ]

/-- However often one asks, a walk yields the items of its run and then nothing, and stays where the
run has left it. -/
theorem ask_run (walk : ElementWalk) (count : Nat) :
    walk.ask (walk.run.1.length + count)
      = (walk.run.1.map (fun step => some step.1) ++ List.replicate count none, walk.run.2) := by
  induction hfuel : walk.fuel using Nat.strongRecOn generalizing walk with
  | ind fuel ih =>
    cases hnext : walk.next? with
    | none =>
      rw [run_of_none hnext, List.length_nil, Nat.zero_add]
      exact ask_of_none hnext count
    | some step =>
      obtain ⟨item, after⟩ := step
      have hless := fuel_next?_lt hnext
      rw [hfuel] at hless
      have hafter := ih after.fuel hless after rfl
      rw [run_of_some hnext, List.length_cons, Nat.add_right_comm, ask, hnext]
      simp only [hafter, List.map_cons, List.cons_append]

end

/-- The next step of a walk in front of a written element leads to the byte behind it. -/
theorem next?_written {element : Element}
    (hfits : element.content.length ≤ element.contentLimit) (position : Nat) (rest : Bytes) :
    next? ⟨element.encode ++ rest, position, false⟩
      = some (.ok (position, element),
          ⟨rest, position + element.encode.length, element.endsList⟩) := by
  rw [next?_encode hfits, Element.encode_length, Nat.add_assoc]

/-- A walk that stands within the bytes goes on through them. -/
theorem run_tiles {bytes rest : Bytes} {position : Nat} (hrest : bytes.drop position = rest)
    (hwithin : position ≤ bytes.length) :
    Tiles bytes position (run ⟨rest, position, false⟩).1
      (run ⟨rest, position, false⟩).2.position := by
  -- On the length: an element takes as many bytes as it declares, not one after another.
  induction hlength : rest.length using Nat.strongRecOn generalizing rest position with
  | ind length ih =>
    by_cases hempty : rest = []
    · subst hempty
      have hend : position = bytes.length := Nat.le_antisymm hwithin (List.drop_eq_nil_iff.mp hrest)
      rw [run_of_none rfl, hend]
      exact .exhausted
    · cases hread : Element.read position rest with
      | error err =>
        obtain ⟨fault, hcut, rfl⟩ := (Element.read_eq_error_iff hempty).mp hread
        have hnext : next? ⟨rest, position, false⟩
            = some (.error (.malformedElement position fault), ⟨rest, position, true⟩) := by
          simp [next?, hread, hempty]
        rw [run_of_some hnext, run_of_none (next?_of_ended rfl)]
        exact .cut (by rwa [hrest]) rfl
      | ok read =>
        obtain ⟨element, after⟩ := read
        obtain ⟨hfits, rfl⟩ := Element.read_eq_ok_iff.mp hread
        have hlies := Element.liesIn_of_drop hfits hrest
        rw [run_of_some (next?_written hfits position after)]
        cases hends : element.endsList with
        | true =>
          rw [run_of_none (next?_of_ended rfl)]
          exact .closed hlies hends
        | false =>
          have hbehind : bytes.drop (position + element.encode.length) = after := by
            rw [← List.drop_drop, hrest, List.drop_left]
          have hinside : position + element.encode.length ≤ bytes.length := by
            have hsize := congrArg List.length hrest
            rw [List.length_drop, List.length_append] at hsize
            omega
          have hshorter : after.length < length := by
            rw [← hlength]
            exact Element.read_rest_length_lt hread
          exact .passed hlies hends (ih _ hshorter hbehind hinside rfl)

theorem elementsOf_cons_ok (position : Nat) (element : Element) (behind : ElementWalk)
    (items : List (WalkItem × ElementWalk)) :
    elementsOf ((.ok (position, element), behind) :: items) = element :: elementsOf items := rfl

/-- Written again, the elements are what the walk has passed. -/
theorem Tiles.take_eq {bytes : Bytes} {start final : Nat} {items : List (WalkItem × ElementWalk)}
    (h : Tiles bytes start items final) :
    bytes.take final = bytes.take start ++ (elementsOf items).flatMap Element.encode := by
  induction h with
  | exhausted | cut => exact (List.append_nil _).symm
  | @closed position element behind hlies =>
    rw [hlies.take_eq, elementsOf_cons_ok, List.flatMap_cons]
    exact congrArg _ (List.append_nil _).symm
  | @passed position final element behind items hlies _ _ ih =>
    calc bytes.take final
        = bytes.take behind.position ++ (elementsOf items).flatMap Element.encode := ih
      _ = bytes.take position ++ element.encode
            ++ (elementsOf items).flatMap Element.encode := by rw [hlies.take_eq]
      _ = bytes.take position ++
            (elementsOf ((.ok (position, element), behind) :: items)).flatMap Element.encode := by
        rw [elementsOf_cons_ok, List.flatMap_cons, List.append_assoc]

/-- Elements that a list can be made of: whole ones, of which none but the last ends the list. -/
structure Listable (elements : List Element) : Prop where
  fits : ∀ element ∈ elements, element.content.length ≤ element.contentLimit
  goes : ∀ element ∈ elements.dropLast, element.endsList = false

theorem Listable.tail {element : Element} {elements : List Element}
    (h : Listable (element :: elements)) : Listable elements where
  fits := fun _ hmem => h.fits _ (List.mem_cons_of_mem element hmem)
  goes := by
    intro other hmem
    cases elements with
    | nil => cases hmem
    | cons => exact h.goes other (List.mem_cons_of_mem element hmem)

theorem Listable.eq_nil_of_endsList {element : Element} {elements : List Element}
    (h : Listable (element :: elements)) (hends : element.endsList = true) : elements = [] := by
  by_contra hsome
  have hmem : element ∈ (element :: elements).dropLast := by
    rw [List.dropLast_cons_of_ne_nil hsome]
    exact List.mem_cons_self
  have hgoes := h.goes element hmem
  rw [hends] at hgoes
  cases hgoes

/-- A list that was written is read back, to its end. -/
theorem run_written {elements : List Element} (h : Listable elements) (position : Nat) :
    (run ⟨elements.flatMap Element.encode, position, false⟩).1.map (fun step => step.1.element?)
        = elements.map some ∧
      (run ⟨elements.flatMap Element.encode, position, false⟩).2.position
        = position + (elements.flatMap Element.encode).length := by
  induction elements generalizing position with
  | nil =>
    rw [List.flatMap_nil, run_of_none rfl]
    exact ⟨rfl, rfl⟩
  | cons element elements ih =>
    have hfits := h.fits element List.mem_cons_self
    rw [List.flatMap_cons, run_of_some (next?_written hfits position _), List.length_append,
      ← Nat.add_assoc]
    cases hends : element.endsList with
    | true =>
      obtain rfl := h.eq_nil_of_endsList hends
      rw [run_of_none (next?_of_ended rfl)]
      exact ⟨rfl, rfl⟩
    | false =>
      obtain ⟨hitems, hposition⟩ := ih h.tail (position + element.encode.length)
      exact ⟨congrArg (some element :: ·) hitems, hposition⟩

/-- **Reading and writing lists of elements.** Any bytes are tiled by the items of the walk through
them, which are the elements that the bytes spell as far as the walk gets. Once it has yielded these
it yields nothing more and stays. A list that was written comes back as it was. -/
theorem run_ofBytes_tiles (bytes : Bytes) :
    ∃ items final, (ofBytes bytes).run = (items, final) ∧
      Tiles bytes 0 items final.position ∧
      bytes.take final.position = (elementsOf items).flatMap Element.encode ∧
      (∀ count, (ofBytes bytes).ask (items.length + count)
        = (items.map (fun step => some step.1) ++ List.replicate count none, final)) ∧
      ∀ elements, Listable elements → bytes = elements.flatMap Element.encode →
        items.map (fun step => step.1.element?) = elements.map some ∧
          final.position = bytes.length := by
  have htiles : Tiles bytes 0 (ofBytes bytes).run.1 (ofBytes bytes).run.2.position :=
    run_tiles List.drop_zero bytes.length.zero_le
  refine ⟨_, _, rfl, htiles, ?_, (ofBytes bytes).ask_run, ?_⟩
  · rw [htiles.take_eq, List.take_zero, List.nil_append]
  · rintro elements hlistable rfl
    obtain ⟨hitems, hposition⟩ := run_written hlistable 0
    exact ⟨hitems, hposition.trans (Nat.zero_add _)⟩

theorem run_ofBytes_terminations :
    Listable [.header 0x7E [], .payload 5 [0x2A, 0x00], .payload 15 []] ∧
      (ofBytes [0x00, 0x3F, 0x02, 0xA8, 0x2A, 0x00, 0x00, 0xF8]).run.1.map (·.1.element?)
        = [some (.header 0x7E []), some (.payload 5 [0x2A, 0x00]), some (.payload 15 [])] := by
  have hlistable : Listable [.header 0x7E [], .payload 5 [0x2A, 0x00], .payload 15 []] :=
    ⟨by decide, by decide⟩
  obtain ⟨items, final, hrun, _, _, _, hback⟩ :=
    run_ofBytes_tiles [0x00, 0x3F, 0x02, 0xA8, 0x2A, 0x00, 0x00, 0xF8]
  rw [hrun]
  exact ⟨hlistable, (hback _ hlistable (by decide)).1⟩

end ElementWalk

end MeshTelemetry
