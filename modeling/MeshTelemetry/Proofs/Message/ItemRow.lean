import MeshTelemetry.Proofs.Message.ItemForm

/-!
# A row of items

The row is spelled item by item. What a reader makes of it depends on three things that the items
determine without their offsets: the numbers of the options, which are sums of distances, the values
that the message absorbs, and the telemetry blocks. So the reader walks over an accepted row in one
step, and whatever it accepts is such a row with a payload or the end of the input behind it.
-/

namespace MeshTelemetry

/-- How the wire spells a row of items. -/
inductive ItemRow : List Item → Bytes → Prop where
  | nil : ItemRow [] []
  | cons {item : Item} {items : List Item} {bytes rest : Bytes} :
      item.Form bytes → ItemRow items rest → ItemRow (item :: items) (bytes ++ rest)

/-- How the wire spells what follows the row: nothing, or a marker and the payload. -/
inductive PayloadForm : Bytes → Bytes → Prop where
  | absent : PayloadForm [] []
  | present {marker : UInt8} {payload : Bytes} :
      0xF0 ≤ marker → marker ≠ telemetryMarker → PayloadForm payload (marker :: payload)

/-- The options of a row with their numbers, each the sum of the distances up to it. -/
def numberedOptions (previous : Nat) : List Item → List WireOption
  | [] => []
  | .block _ :: items => numberedOptions previous items
  | .option delta value :: items =>
    ⟨previous + delta, value⟩ :: numberedOptions (previous + delta) items

/-- The number that the next distance counts from. -/
def lastNumber (previous : Nat) : List Item → Nat
  | [] => previous
  | .block _ :: items => lastNumber previous items
  | .option delta _ :: items => lastNumber (previous + delta) items

def Item.block? : Item → Option Bytes
  | .block bytes => some bytes
  | .option _ _ => none

def telemetryBlocks (items : List Item) : List Bytes := items.filterMap Item.block?

theorem ItemRow.append {items others : List Item} {bytes rest : Bytes} (hfirst : ItemRow items bytes)
    (hsecond : ItemRow others rest) : ItemRow (items ++ others) (bytes ++ rest) := by
  induction hfirst with
  | nil => exact hsecond
  | cons hform _ ih =>
    rw [List.append_assoc]
    exact .cons hform ih

theorem numberedOptions_append_block (previous : Nat) (items : List Item) (bytes : Bytes) :
    numberedOptions previous (items ++ [.block bytes]) = numberedOptions previous items := by
  induction items generalizing previous with
  | nil => rfl
  | cons item items ih => cases item <;> simp [numberedOptions, ih]

theorem marksPayload_iff {byte : UInt8} :
    marksPayload byte = true ↔ 0xF0 ≤ byte ∧ byte ≠ telemetryMarker := by
  simp [marksPayload]

namespace Reading

/-- The row's options have numbers in range, and the message absorbs them one after another. -/
def Accepts (reading : Reading) (items : List Item) (message : Message) : Prop :=
  (∀ option ∈ numberedOptions reading.number items, option.number ≤ maxOptionNumber) ∧
    (numberedOptions reading.number items).foldlM Message.absorb reading.message = .ok message

/-- What has been read once the row is behind, given what the message has become. -/
def behind (reading : Reading) (items : List Item) (message : Message) : Reading where
  message := message
  number := lastNumber reading.number items
  telemetry := (telemetryBlocks items).getLast?.or reading.telemetry

theorem add_option_eq_ok_iff {reading next : Reading} {start delta : Nat} {value : Bytes} :
    reading.add start (.option delta value) = .ok next ↔
      reading.number + delta ≤ maxOptionNumber ∧
        ∃ message, reading.message.absorb ⟨reading.number + delta, value⟩ = .ok message ∧
          next = { reading with message := message, number := reading.number + delta } := by
  unfold add
  simp only
  by_cases hnumber : maxOptionNumber < reading.number + delta
  · rw [if_pos hnumber]
    constructor
    · intro h
      cases h
    · rintro ⟨hle, _⟩
      omega
  · rw [if_neg hnumber, bind_eq_ok_iff]
    constructor
    · rintro ⟨message, habsorb, h⟩
      cases h
      exact ⟨by omega, message, habsorb, rfl⟩
    · rintro ⟨_, message, habsorb, rfl⟩
      exact ⟨message, habsorb, rfl⟩

/-- A row is accepted if its first item is added and the rest is accepted after it. -/
theorem accepts_cons_iff {reading : Reading} (start : Nat) {item : Item} {items : List Item}
    {message : Message} :
    reading.Accepts (item :: items) message ↔
      ∃ next, reading.add start item = .ok next ∧ next.Accepts items message := by
  cases item with
  | block bytes =>
    constructor
    · exact fun h => ⟨_, rfl, h⟩
    · rintro ⟨next, hadd, h⟩
      cases hadd
      exact h
  | option delta value =>
    unfold Accepts
    simp only [numberedOptions, List.forall_mem_cons, List.foldlM_cons, bind_eq_ok_iff,
      add_option_eq_ok_iff]
    constructor
    · rintro ⟨⟨hnumber, hnumbers⟩, taken, habsorb, hfold⟩
      exact ⟨_, ⟨hnumber, taken, habsorb, rfl⟩, ⟨hnumbers, hfold⟩⟩
    · rintro ⟨next, ⟨hnumber, taken, habsorb, rfl⟩, ⟨hnumbers, hfold⟩⟩
      exact ⟨⟨hnumber, hnumbers⟩, taken, habsorb, hfold⟩

theorem finish_nil (reading : Reading) (hempty : reading.message.payload = []) :
    reading.finish [] = reading := by
  rw [finish, List.take_nil, ← hempty]

theorem behind_of_add {reading next : Reading} {start : Nat} {item : Item}
    (hadd : reading.add start item = .ok next) (items : List Item) (message : Message) :
    next.behind items message = reading.behind (item :: items) message := by
  cases item with
  | block bytes =>
    cases hadd
    simp only [behind, lastNumber, telemetryBlocks, List.filterMap_cons, Item.block?,
      List.getLast?_cons]
    cases (List.filterMap Item.block? items).getLast? <;> rfl
  | option delta value =>
    obtain ⟨_, _, _, rfl⟩ := add_option_eq_ok_iff.mp hadd
    rfl

end Reading

theorem readItems_nil (reading : Reading) (offset : Nat) :
    readItems reading offset [] = .ok reading := by
  rw [readItems]

theorem readItems_marker {first : UInt8} (hmarks : marksPayload first = true) (reading : Reading)
    (offset : Nat) (rest : Bytes) :
    readItems reading offset (first :: rest) = .ok (reading.finish rest) := by
  rw [readItems, if_pos hmarks]

/-- The reader takes the item in front, adds it, and goes on behind it. -/
theorem readItems_item {item : Item} {bytes : Bytes} (hform : item.Form bytes) (reading : Reading)
    (offset : Nat) (rest : Bytes) :
    readItems reading offset (bytes ++ rest)
      = reading.add offset item >>= fun next => readItems next (offset + bytes.length) rest := by
  obtain ⟨first, consumed, rfl, hmarks⟩ := hform.head
  have hread : readItem first offset ⟨offset + 1, consumed ++ rest⟩
      = .ok (item, ⟨offset + (first :: consumed).length, rest⟩) :=
    readItem_eq_ok_iff.mpr ⟨consumed, hform, rfl, by simp only [List.length_cons]; omega⟩
  rw [List.cons_append, readItems, if_neg (by simp [hmarks])]
  split
  · rename_i err herr
    rw [hread] at herr
    cases herr
  · rename_i found after hfound
    rw [hread] at hfound
    cases hfound
    cases reading.add offset item <;> rfl

/-- The reader walks over a row whose numbers are in range: the message absorbs the options, and
the reading goes on behind the row or fails as the message did. -/
theorem readItems_row {items : List Item} {row : Bytes} (hrow : ItemRow items row)
    {reading : Reading}
    (hnumbers : ∀ option ∈ numberedOptions reading.number items, option.number ≤ maxOptionNumber)
    (offset : Nat) (rest : Bytes) :
    readItems reading offset (row ++ rest)
      = (numberedOptions reading.number items).foldlM Message.absorb reading.message >>=
        fun message => readItems (reading.behind items message) (offset + row.length) rest := by
  induction hrow generalizing reading offset with
  | nil => rfl
  | @cons item items bytes row hform _ ih =>
    rw [List.append_assoc, readItems_item hform, List.length_append, ← Nat.add_assoc]
    cases item with
    | block block =>
      have hadd : reading.add offset (.block block) = .ok { reading with telemetry := some block } :=
        rfl
      rw [hadd, ok_bind, @ih { reading with telemetry := some block } hnumbers]
      simp only [Reading.behind_of_add hadd]
      rfl
    | option delta value =>
      obtain ⟨hnumber, hnumbers⟩ := List.forall_mem_cons.mp hnumbers
      rw [numberedOptions, List.foldlM_cons]
      cases habsorb : reading.message.absorb ⟨reading.number + delta, value⟩ with
      | error err =>
        have hadd : reading.add offset (.option delta value) = .error err := by
          simp only [Reading.add, if_neg (Nat.not_lt.mpr hnumber), habsorb]
          rfl
        rw [hadd]
        rfl
      | ok message =>
        have hadd : reading.add offset (.option delta value)
            = .ok { reading with message := message, number := reading.number + delta } :=
          Reading.add_option_eq_ok_iff.mpr ⟨hnumber, message, habsorb, rfl⟩
        rw [hadd, ok_bind, ih hnumbers]
        simp only [Reading.behind_of_add hadd, ok_bind]

theorem readItems_payload {payload tail : Bytes} (htail : PayloadForm payload tail)
    {reading : Reading} (hempty : reading.message.payload = []) (offset : Nat) :
    readItems reading offset tail = .ok (reading.finish payload) := by
  cases htail with
  | absent =>
    rw [readItems_nil, reading.finish_nil hempty]
  | present hle hne => rw [readItems_marker (marksPayload_iff.mpr ⟨hle, hne⟩)]

/-- Unless a marker is in front, success means that an item is in front. -/
theorem exists_item_of_readItems {first : UInt8} (hmarks : marksPayload first = false)
    {reading final : Reading} {offset : Nat} {rest : Bytes}
    (h : readItems reading offset (first :: rest) = .ok final) :
    ∃ item consumed after next, item.Form (first :: consumed) ∧ rest = consumed ++ after ∧
      reading.add offset item = .ok next ∧
        readItems next (offset + (first :: consumed).length) after = .ok final := by
  rw [readItems, if_neg (by simp [hmarks])] at h
  split at h
  · cases h
  · rename_i item after hread
    obtain ⟨consumed, hform, hrest, hoffset⟩ := readItem_eq_ok_iff.mp hread
    simp only at hrest hoffset
    cases hadd : reading.add offset item with
    | error err =>
      rw [hadd] at h
      cases h
    | ok next =>
      rw [hadd] at h
      refine ⟨item, consumed, after.rest, next, hform, hrest, hadd, ?_⟩
      rwa [List.length_cons, Nat.add_comm consumed.length, ← Nat.add_assoc, ← hoffset]

/-- **A row and its end.** The reader succeeds exactly on an accepted row with nothing behind it or
with a payload marker behind it. -/
theorem readItems_eq_ok_iff {reading final : Reading} {offset : Nat} {bytes : Bytes} :
    readItems reading offset bytes = .ok final ↔
      ∃ items row message, ItemRow items row ∧ reading.Accepts items message ∧
        (bytes = row ∧ final = reading.behind items message ∨
          ∃ marker payload, bytes = row ++ marker :: payload ∧ marksPayload marker = true ∧
            final = (reading.behind items message).finish payload) := by
  constructor
  · intro h
    -- By induction on the input's length, since an item has at least its first byte.
    induction hlength : bytes.length using Nat.strongRecOn generalizing reading offset bytes
      with
    | _ length ih =>
      match bytes with
      | [] =>
        rw [readItems_nil] at h
        cases h
        exact ⟨[], [], _, .nil, ⟨by simp [numberedOptions], rfl⟩, .inl ⟨rfl, rfl⟩⟩
      | first :: rest =>
        cases hmarks : marksPayload first with
        | true =>
          rw [readItems_marker hmarks] at h
          cases h
          exact ⟨[], [], _, .nil, ⟨by simp [numberedOptions], rfl⟩,
            .inr ⟨first, rest, rfl, hmarks, rfl⟩⟩
        | false =>
          obtain ⟨item, consumed, after, next, hform, rfl, hadd, hnext⟩ :=
            exists_item_of_readItems hmarks h
          have hshorter : after.length < length := by
            simp only [← hlength, List.length_cons, List.length_append]
            omega
          obtain ⟨items, row, message, hrow, haccepts, hend⟩ := ih _ hshorter hnext rfl
          rw [Reading.behind_of_add hadd] at hend
          refine ⟨item :: items, first :: consumed ++ row, message, .cons hform hrow,
            (Reading.accepts_cons_iff offset).mpr ⟨next, hadd, haccepts⟩, ?_⟩
          rcases hend with ⟨rfl, hfinal⟩ | ⟨marker, payload, rfl, hmarker, hfinal⟩
          · exact .inl ⟨rfl, hfinal⟩
          · exact .inr ⟨marker, payload, by simp, hmarker, hfinal⟩
  · rintro ⟨items, row, message, hrow, ⟨hnumbers, hfold⟩, hend⟩
    rcases hend with ⟨rfl, rfl⟩ | ⟨marker, payload, rfl, hmarks, rfl⟩
    · have hwalk := readItems_row hrow hnumbers offset []
      rwa [List.append_nil, hfold, ok_bind, readItems_nil] at hwalk
    · rw [readItems_row hrow hnumbers, hfold, ok_bind, readItems_marker hmarks]

end MeshTelemetry
