import Mathlib.Data.List.TakeDrop
import Mathlib.Data.List.TakeWhile
import MeshTelemetry.Text

/-!
# Text and its parts

Bytes are a text exactly if they are the UTF-8 of one. Joining is what a reader does that meets the
parts one after another: each new part is put behind a separator. The parts of a text, and the two
sides of a cut, are told by what they are and not by how they are found.
-/

namespace MeshTelemetry.Text

theorem ofUtf8?_eq_some_iff {bytes : Bytes} {text : String} :
    ofUtf8? bytes = some text ↔ utf8 text = bytes := by
  constructor
  · intro h
    unfold ofUtf8? String.fromUTF8? at h
    split at h
    · cases h
      simp [utf8, String.fromUTF8]
    · cases h
  · rintro rfl
    exact ofUtf8?_utf8 text

/-- A text is as long as its UTF-8. -/
theorem length_utf8 (text : String) : (utf8 text).length = text.utf8ByteSize := rfl

theorem intercalate_concat {α : Type} (separator : List α) {parts : List (List α)}
    (hparts : parts ≠ []) (part : List α) :
    separator.intercalate (parts ++ [part])
      = separator.intercalate parts ++ (separator ++ part) := by
  induction parts with
  | nil => exact absurd rfl hparts
  | cons first rest ih =>
    cases rest with
    | nil => simp [List.intercalate_cons_cons]
    | cons second rest =>
      have hrest := ih (by simp)
      simp only [List.cons_append, List.intercalate_cons_cons] at hrest ⊢
      rw [hrest]
      simp only [List.append_assoc]

theorem join_concat (separator : Char) {parts : List String} (hparts : parts ≠ [])
    (part : String) :
    join separator (parts ++ [part]) = (join separator parts).push separator ++ part := by
  apply String.toList_inj.mp
  have hmapped : parts.map String.toList ≠ [] := by simp [hparts]
  simp [join, intercalate_concat _ hmapped]

theorem join_singleton (separator : Char) (part : String) : join separator [part] = part := by
  simp [join]

theorem split_ne_nil (separator : Char) (text : String) : split separator text ≠ [] := by
  simp [split, List.splitOn_ne_nil]

theorem not_mem_of_mem_splitOn {α : Type} [BEq α] [LawfulBEq α] (separator : α) (values : List α) :
    ∀ part ∈ values.splitOn separator, separator ∉ part := by
  induction values with
  | nil => simp
  | cons value values ih =>
    rw [List.splitOn_cons_eq_if_modifyHead]
    split
    · exact List.forall_mem_cons.mpr ⟨List.not_mem_nil, ih⟩
    · rename_i hother
      obtain ⟨first, rest, heq⟩ := List.exists_cons_of_ne_nil (List.splitOn_ne_nil separator values)
      rw [heq] at ih ⊢
      obtain ⟨hfirst, hrest⟩ := List.forall_mem_cons.mp ih
      have hne : separator ≠ value := fun h => hother (beq_iff_eq.mpr h.symm)
      rw [List.modifyHead_cons]
      exact List.forall_mem_cons.mpr ⟨List.not_mem_cons_of_ne_of_not_mem hne hfirst, hrest⟩

/-- No part contains the separator. -/
theorem not_mem_of_mem_split {separator : Char} {text part : String}
    (h : part ∈ split separator text) : separator ∉ part.toList := by
  obtain ⟨letters, hletters, rfl⟩ := List.mem_map.mp h
  rw [String.toList_ofList]
  exact not_mem_of_mem_splitOn separator text.toList letters hletters

/-- Parts without the separator are found again. -/
theorem split_join {separator : Char} {parts : List String} (hparts : parts ≠ [])
    (h : ∀ part ∈ parts, separator ∉ part.toList) : split separator (join separator parts) = parts := by
  have hmapped : parts.map String.toList ≠ [] := by simp [hparts]
  rw [split, join, String.toList_ofList, List.splitOn_intercalate separator _ hmapped, List.map_map]
  · exact List.map_id'' (fun part => String.ofList_toList) _
  · simpa using h

/-- The parts that a separator keeps apart in a text. -/
structure IsParted (separator : Char) (text : String) (parts : List String) : Prop where
  ne_nil : parts ≠ []
  whole : ∀ part ∈ parts, separator ∉ part.toList
  joined : join separator parts = text

/-- Splitting finds the parts, and no text has others. -/
theorem split_eq_iff {separator : Char} {text : String} {parts : List String} :
    split separator text = parts ↔ IsParted separator text parts := by
  constructor
  · rintro rfl
    exact ⟨split_ne_nil separator text, fun part => not_mem_of_mem_split,
      join_split separator text⟩
  · rintro ⟨hparts, hwhole, rfl⟩
    exact split_join hparts hwhole

/-- The text is cut at its first mark. -/
structure IsCut (mark : Char) (text before after : String) : Prop where
  first : mark ∉ before.toList
  joined : before.push mark ++ after = text

theorem exists_isCut {mark : Char} {text : String} (h : mark ∈ text.toList) :
    ∃ before after, IsCut mark text before after := by
  obtain ⟨before, after, htext, hfirst⟩ := List.eq_append_cons_of_mem h
  refine ⟨String.ofList before, String.ofList after, by simpa using hfirst, ?_⟩
  apply String.toList_inj.mp
  simp [htext]

theorem IsCut.cutFirst? {mark : Char} {text before after : String}
    (h : IsCut mark text before after) : cutFirst? mark text = some (before, after) := by
  obtain ⟨hfirst, rfl⟩ := h
  have hkeep : ∀ letter ∈ before.toList, (letter != mark) = true := fun letter hmem =>
    bne_iff_ne.mpr fun heq => hfirst (heq ▸ hmem)
  have hspan : (before.push mark ++ after).toList.span (· != mark)
      = (before.toList, mark :: after.toList) := by
    rw [List.span_eq_takeWhile_dropWhile, String.toList_append, String.toList_push,
      List.append_assoc, List.singleton_append, List.takeWhile_append_of_pos hkeep,
      List.dropWhile_append_of_pos hkeep]
    simp
  simp only [Text.cutFirst?, hspan, String.ofList_toList]

theorem cutFirst?_eq_none_iff {mark : Char} {text : String} :
    cutFirst? mark text = none ↔ mark ∉ text.toList := by
  constructor
  · intro hnone hmem
    obtain ⟨before, after, hcut⟩ := exists_isCut hmem
    rw [hcut.cutFirst?] at hnone
    cases hnone
  · intro hmem
    have hkeep : ∀ letter ∈ text.toList, (letter != mark) = true := fun letter hletter =>
      bne_iff_ne.mpr fun heq => hmem (heq ▸ hletter)
    rw [Text.cutFirst?, List.span_eq_takeWhile_dropWhile, List.dropWhile_eq_nil_iff.mpr hkeep]

/-- Cutting finds the first mark, and no text has another. -/
theorem cutFirst?_eq_some_iff {mark : Char} {text before after : String} :
    cutFirst? mark text = some (before, after) ↔ IsCut mark text before after := by
  refine ⟨fun h => ?_, IsCut.cutFirst?⟩
  by_cases hmem : mark ∈ text.toList
  · obtain ⟨_, _, hcut⟩ := exists_isCut hmem
    rw [hcut.cutFirst?] at h
    cases h
    exact hcut
  · rw [cutFirst?_eq_none_iff.mpr hmem] at h
    cases h

theorem dropLeading_of_head {mark : Char} {text : String} (h : text.toList.head? ≠ some mark) :
    dropLeading mark text = text := by
  apply String.toList_inj.mp
  rw [dropLeading, String.toList_ofList]
  cases hletters : text.toList with
  | nil => rfl
  | cons letter letters =>
    rw [hletters, List.head?_cons, ne_eq, Option.some.injEq] at h
    rw [List.dropWhile_cons_of_neg (by simpa using h)]

/-- Letters that are dropped from the front leave the cut where it is. -/
theorem IsCut.dropLeading {mark lead : Char} (hlead : mark ≠ lead) {text before after : String}
    (h : IsCut mark text before after) :
    IsCut mark (dropLeading lead text) (dropLeading lead before) after := by
  obtain ⟨hfirst, rfl⟩ := h
  constructor
  · rw [Text.dropLeading, String.toList_ofList]
    exact fun hmem => hfirst ((List.dropWhile_sublist _).mem hmem)
  · apply String.toList_inj.mp
    have hbehind : (mark :: after.toList).dropWhile (· == lead) = mark :: after.toList :=
      List.dropWhile_cons_of_neg (by simpa using hlead)
    simp only [Text.dropLeading, String.toList_append, String.toList_push, String.toList_ofList,
      List.append_assoc, List.singleton_append]
    rw [List.dropWhile_append, hbehind]
    split
    · rename_i hempty
      rw [List.isEmpty_iff.mp hempty, List.nil_append]
    · rfl

theorem cutFirst?_dropLeading {mark lead : Char} (hlead : mark ≠ lead) (text : String) :
    cutFirst? mark (dropLeading lead text)
      = (cutFirst? mark text).map (Prod.map (dropLeading lead) id) := by
  cases hcut : cutFirst? mark text with
  | none =>
    rw [cutFirst?_eq_none_iff] at hcut
    rw [Option.map_none, cutFirst?_eq_none_iff, dropLeading, String.toList_ofList]
    exact fun hmem => hcut ((List.dropWhile_sublist _).mem hmem)
  | some cut =>
    exact ((cutFirst?_eq_some_iff.mp hcut).dropLeading hlead).cutFirst?

end MeshTelemetry.Text
