import Mathlib.Data.List.Basic
import MeshTelemetry.Message.Encoding
import MeshTelemetry.Proofs.Message.ItemRow
import MeshTelemetry.Proofs.Message.OptionValues

/-!
# The row that a writer makes

A message goes out as a row of options in ascending order, so the distances between their numbers
lose nothing: a reader adds them up again. No option is written for which the message holds no
value, and none but a proxy option is one that a receiver refuses.
-/

namespace MeshTelemetry

/-- The items of options whose numbers ascend: each holds the distance from the number before. -/
def itemsOf (previous : Nat) : List WireOption → List Item
  | [] => []
  | option :: options =>
    .option (option.number - previous) option.value :: itemsOf option.number options

theorem WireOption.encode_eq_ok_iff {previous : Nat} {option : WireOption} {bytes : Bytes} :
    option.encode previous = .ok bytes ↔
      option.value.length ≤ maxExtended ∧
        bytes = OptionHeader.bytes ⟨option.number - previous, option.value.length⟩
          ++ option.value := by
  unfold encode OptionHeader.encode
  simp only
  by_cases hlong : maxExtended < option.value.length
  · rw [if_pos hlong]
    constructor
    · intro h
      cases h
    · rintro ⟨hle, _⟩
      omega
  · rw [if_neg hlong, ok_bind]
    constructor
    · intro h
      cases h
      exact ⟨by omega, rfl⟩
    · rintro ⟨_, rfl⟩
      rfl

theorem encodeOptions_nil (previous : Nat) : encodeOptions previous [] = .ok [] := rfl

theorem encodeOptions_cons_eq_ok_iff {previous : Nat} {option : WireOption}
    {options : List WireOption} {bytes : Bytes} :
    encodeOptions previous (option :: options) = .ok bytes ↔
      ∃ head rest, option.encode previous = .ok head ∧
        encodeOptions option.number options = .ok rest ∧ bytes = head ++ rest := by
  unfold encodeOptions
  simp only [List.map_cons, List.zip_cons_cons, List.mapM_cons, bind_eq_ok_iff]
  constructor
  · rintro ⟨parts, ⟨head, hhead, rest, hrest, hparts⟩, hbytes⟩
    cases hparts
    cases hbytes
    exact ⟨head, rest.flatten, hhead, ⟨rest, hrest, rfl⟩, by simp⟩
  · rintro ⟨head, rest, hhead, ⟨parts, hparts, hrest⟩, rfl⟩
    cases hrest
    exact ⟨head :: parts, ⟨head, hhead, parts, hparts, rfl⟩, by simp [pure, Except.pure]⟩

/-- The bytes of written options spell their items. -/
theorem itemRow_of_encodeOptions {previous : Nat} {options : List WireOption} {bytes : Bytes}
    (hnumbers : ∀ option ∈ options, option.number ≤ maxExtended)
    (h : encodeOptions previous options = .ok bytes) : ItemRow (itemsOf previous options) bytes := by
  induction options generalizing previous bytes with
  | nil =>
    rw [encodeOptions_nil] at h
    cases h
    exact .nil
  | cons option options ih =>
    obtain ⟨hnumber, hnumbers⟩ := List.forall_mem_cons.mp hnumbers
    obtain ⟨head, rest, hhead, hrest, rfl⟩ := encodeOptions_cons_eq_ok_iff.mp h
    obtain ⟨hlength, rfl⟩ := WireOption.encode_eq_ok_iff.mp hhead
    exact .cons (OptionHeader.bytes_form (by omega) hlength) (ih hnumbers hrest)

/-- Adding the distances up again gives the options back. -/
theorem numberedOptions_itemsOf {previous : Nat} {options : List WireOption}
    (hprevious : ∀ option ∈ options, previous ≤ option.number)
    (hsorted : options.Pairwise fun first second => first.number ≤ second.number) :
    numberedOptions previous (itemsOf previous options) = options := by
  induction options generalizing previous with
  | nil => rfl
  | cons option options ih =>
    obtain ⟨habove, hsorted⟩ := List.pairwise_cons.mp hsorted
    have hnumber := hprevious option List.mem_cons_self
    rw [itemsOf, numberedOptions, Nat.add_sub_cancel' hnumber, ih habove hsorted]

theorem telemetryBlocks_itemsOf (previous : Nat) (options : List WireOption) :
    telemetryBlocks (itemsOf previous options) = [] := by
  induction options generalizing previous with
  | nil => rfl
  | cons option options ih =>
    have hrest := ih option.number
    simpa [telemetryBlocks, itemsOf, Item.block?] using hrest

theorem valuesOf_append (first second : List WireOption) (kind : OptionKind) :
    valuesOf (first ++ second) kind = valuesOf first kind ++ valuesOf second kind := by
  simp [valuesOf]

/-- The options of one kind among the options of another are all of them or none. -/
theorem valuesOf_map_mk (kind other : OptionKind) (values : List Bytes) :
    valuesOf (values.map fun value => ⟨other.number, value⟩) kind
      = if other = kind then values else [] := by
  by_cases heq : other = kind
  · subst heq
    simp [valuesOf, List.filter_map, Function.comp_def]
  · have hne : other.number ≠ kind.number := fun h => heq (OptionKind.number_injective h)
    simp [valuesOf, List.filter_map, Function.comp_def, heq, hne]

namespace OptionKind

theorem all_pairwise : all.Pairwise fun first second => first.number < second.number := by decide

theorem nodup_all : all.Nodup := by decide

theorem number_le (kind : OptionKind) : kind.number ≤ 60 := by
  cases kind <;> decide

end OptionKind

namespace Message

theorem mem_wireOptions {message : Message} {option : WireOption} :
    option ∈ message.wireOptions ↔
      ∃ kind : OptionKind, kind.number = option.number ∧ option.value ∈ message.values kind := by
  simp only [wireOptions, List.mem_flatMap, List.mem_map]
  constructor
  · rintro ⟨kind, _, value, hvalue, rfl⟩
    exact ⟨kind, rfl, hvalue⟩
  · rintro ⟨kind, hkind, hvalue⟩
    exact ⟨kind, kind.mem_all, option.value, hvalue, by rw [hkind]⟩

/-- The options go out in ascending order. -/
theorem wireOptions_pairwise (message : Message) :
    message.wireOptions.Pairwise fun first second => first.number ≤ second.number := by
  refine List.pairwise_flatMap.mpr ⟨fun kind _ => ?_, OptionKind.all_pairwise.imp ?_⟩
  · exact List.pairwise_map.mpr (List.pairwise_of_forall fun _ _ => Nat.le_refl _)
  · intro first second hlt option hoption other hother
    obtain ⟨_, _, rfl⟩ := List.mem_map.mp hoption
    obtain ⟨_, _, rfl⟩ := List.mem_map.mp hother
    exact Nat.le_of_lt hlt

theorem number_le_of_mem_wireOptions {message : Message} {option : WireOption}
    (hmem : option ∈ message.wireOptions) : option.number ≤ 60 := by
  obtain ⟨kind, hkind, _⟩ := mem_wireOptions.mp hmem
  rw [← hkind]
  exact kind.number_le

theorem valuesOf_flatMap (message : Message) {kinds : List OptionKind} (hnodup : kinds.Nodup)
    (kind : OptionKind) :
    valuesOf (kinds.flatMap fun kind => (message.values kind).map (⟨kind.number, ·⟩)) kind
      = if kind ∈ kinds then message.values kind else [] := by
  -- A kind that occurred twice would yield its values twice.
  induction kinds with
  | nil => rfl
  | cons first rest ih =>
    obtain ⟨hfirst, hrest⟩ := List.nodup_cons.mp hnodup
    rw [List.flatMap_cons, valuesOf_append, valuesOf_map_mk, ih hrest]
    by_cases heq : first = kind
    · subst heq
      simp [hfirst]
    · have hne : kind ≠ first := fun h => heq h.symm
      simp [heq, hne]

/-- What the wire holds for an option is what the message holds for it. -/
theorem valuesOf_wireOptions (message : Message) : valuesOf message.wireOptions = message.values := by
  funext kind
  rw [wireOptions, valuesOf_flatMap message OptionKind.nodup_all, if_pos kind.mem_all]

/-- The value of a text option is a text. -/
theorem exists_text_of_mem_values {message : Message} {kind : OptionKind} {value : Bytes}
    (htext : kind.isText = true) (hmem : value ∈ message.values kind) :
    ∃ text, Text.utf8 text = value := by
  cases kind
  case uriHost =>
    obtain ⟨text, _, hvalue⟩ := List.mem_map.mp hmem
    exact ⟨text, hvalue⟩
  case locationPath | uriPath | uriQuery | locationQuery =>
    obtain ⟨_, _, hparts⟩ := List.mem_flatMap.mp hmem
    obtain ⟨text, _, hvalue⟩ := List.mem_map.mp hparts
    exact ⟨text, hvalue⟩
  all_goals cases htext

/-- A receiver takes whatever a writer sends, a proxy option apart. -/
theorem acceptable_of_mem_values {message : Message} {kind : OptionKind} {value : Bytes}
    (hproxy : kind.isProxy = false) (hmem : value ∈ message.values kind) :
    WireOption.Acceptable ⟨kind.number, value⟩ where
  not_proxy other hother := by
    rw [OptionKind.number_injective hother]
    exact hproxy
  known_or_elective := .inl ⟨kind, rfl⟩
  is_text other hother htext := by
    rw [OptionKind.number_injective hother] at htext
    exact exists_text_of_mem_values htext hmem

end Message

/-- A row of options is what a writer makes of them. -/
theorem encodeOptions_of_itemRow {items : List Item} {row : Bytes} (hrow : ItemRow items row)
    (hblocks : telemetryBlocks items = []) (previous : Nat) :
    encodeOptions previous (numberedOptions previous items) = .ok row := by
  induction hrow generalizing previous with
  | nil => rfl
  | @cons item items bytes rest hform _ ih =>
    cases item with
    | block block => cases hblocks
    | option delta value =>
      obtain ⟨hlength, rfl⟩ := hform.eq_header_bytes
      refine encodeOptions_cons_eq_ok_iff.mpr ⟨_, rest, ?_, ih hblocks (previous + delta), rfl⟩
      refine WireOption.encode_eq_ok_iff.mpr ⟨hlength, ?_⟩
      rw [Nat.add_sub_cancel_left]

theorem le_number_of_mem_numberedOptions {previous : Nat} {items : List Item} {option : WireOption}
    (hmem : option ∈ numberedOptions previous items) : previous ≤ option.number := by
  induction items generalizing previous with
  | nil => cases hmem
  | cons item items ih =>
    cases item with
    | block block => exact ih hmem
    | option delta value =>
      rcases List.mem_cons.mp hmem with rfl | hmem
      · exact Nat.le_add_right previous delta
      · exact Nat.le_trans (Nat.le_add_right previous delta) (ih hmem)

/-- The numbers of a row ascend. -/
theorem numberedOptions_pairwise (previous : Nat) (items : List Item) :
    (numberedOptions previous items).Pairwise fun first second => first.number ≤ second.number := by
  induction items generalizing previous with
  | nil => exact .nil
  | cons item items ih =>
    cases item with
    | block block => exact ih previous
    | option delta value =>
      exact .cons (fun _ hmem => le_number_of_mem_numberedOptions hmem) (ih (previous + delta))

theorem valuesOf_cons_self {kind : OptionKind} {option : WireOption}
    (hkind : kind.number = option.number) (options : List WireOption) :
    valuesOf (option :: options) kind = option.value :: valuesOf options kind := by
  rw [valuesOf, List.filter_cons_of_pos (by simp [hkind]), List.map_cons, valuesOf]

theorem valuesOf_cons_ne {kind : OptionKind} {option : WireOption}
    (hkind : kind.number ≠ option.number) (options : List WireOption) :
    valuesOf (option :: options) kind = valuesOf options kind := by
  rw [valuesOf, List.filter_cons_of_neg (by simpa using hkind.symm), valuesOf]

theorem mem_valuesOf {options : List WireOption} {kind : OptionKind} {value : Bytes} :
    value ∈ valuesOf options kind ↔
      ∃ option ∈ options, option.number = kind.number ∧ option.value = value := by
  simp only [valuesOf, List.mem_map, List.mem_filter, beq_iff_eq, and_assoc]

/-- The known options of ascending lists with the same values start alike. -/
theorem head_number_le {first second : WireOption} {others rest : List WireOption}
    {kind : OptionKind} (hkind : kind.number = first.number)
    (hsorted : (second :: rest).Pairwise fun before after => before.number ≤ after.number)
    (hvalues : valuesOf (first :: others) = valuesOf (second :: rest)) :
    second.number ≤ first.number := by
  have hmem : first.value ∈ valuesOf (second :: rest) kind := by
    rw [← hvalues, valuesOf_cons_self hkind]
    exact List.mem_cons_self
  obtain ⟨option, hoption, hnumber, _⟩ := mem_valuesOf.mp hmem
  rw [← hkind, ← hnumber]
  rcases List.mem_cons.mp hoption with rfl | hoption
  · exact Nat.le_refl _
  · exact (List.pairwise_cons.mp hsorted).1 option hoption

/-- Known options in ascending order are determined by their values. -/
theorem eq_of_valuesOf_eq {first second : List WireOption}
    (hfirst : first.Pairwise fun before after => before.number ≤ after.number)
    (hsecond : second.Pairwise fun before after => before.number ≤ after.number)
    (hknown : ∀ option ∈ first, ∃ kind : OptionKind, kind.number = option.number)
    (hknown' : ∀ option ∈ second, ∃ kind : OptionKind, kind.number = option.number)
    (hvalues : valuesOf first = valuesOf second) : first = second := by
  induction first generalizing second with
  | nil =>
    cases second with
    | nil => rfl
    | cons option rest =>
      obtain ⟨kind, hkind⟩ := hknown' option List.mem_cons_self
      have hempty := congrFun hvalues kind
      rw [valuesOf_cons_self hkind] at hempty
      cases hempty
  | cons option others ih =>
    obtain ⟨kind, hkind⟩ := hknown option List.mem_cons_self
    cases second with
    | nil =>
      have hempty := congrFun hvalues kind
      rw [valuesOf_cons_self hkind] at hempty
      cases hempty
    | cons found rest =>
      obtain ⟨kind', hkind'⟩ := hknown' found List.mem_cons_self
      have hnumber : option.number = found.number :=
        Nat.le_antisymm (head_number_le hkind' hfirst hvalues.symm)
          (head_number_le hkind hsecond hvalues)
      have hhead := congrFun hvalues kind
      rw [valuesOf_cons_self hkind, valuesOf_cons_self (hkind.trans hnumber)] at hhead
      obtain ⟨hvalue, hsame⟩ := List.cons_eq_cons.mp hhead
      have hrest : valuesOf others = valuesOf rest := by
        funext other
        by_cases hother : other.number = option.number
        · rwa [OptionKind.number_injective (hother.trans hkind.symm)]
        · have htail := congrFun hvalues other
          rwa [valuesOf_cons_ne hother, valuesOf_cons_ne (hnumber ▸ hother)] at htail
      have hoption : option = found := by
        cases option
        cases found
        exact congrArg₂ WireOption.mk hnumber hvalue
      rw [hoption, ih (List.pairwise_cons.mp hfirst).2 (List.pairwise_cons.mp hsecond).2
        (fun other hmem => hknown other (List.mem_cons_of_mem _ hmem))
        (fun other hmem => hknown' other (List.mem_cons_of_mem _ hmem)) hrest]

end MeshTelemetry
