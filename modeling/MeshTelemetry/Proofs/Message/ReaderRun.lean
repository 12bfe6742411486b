import MeshTelemetry.Proofs.Message.ForwardReader
import MeshTelemetry.Proofs.Message.Grammar

/-!
# How far a reader comes

A reader takes the header, the token and one item after another. It comes to the end of the input, or
to a marker, or to an item that it refuses, and up to there it has made of the bytes just what the
grammar says they spell. So whatever a reader does at some place can be told from the bytes before
that place, through the parts they spell, and from those behind it.
-/

namespace MeshTelemetry

/-- How the wire spells what stands in front of a payload: the header, the token and the row of
items. -/
inductive HeadForm : MessageParts → Bytes → Prop where
  | mk {parts : MessageParts} {first code high low : UInt8} {row : Bytes} :
      parts.token.length ≤ maxTokenLength →
      headerOfBytes first code high low = parts.header →
      ItemRow parts.items row →
      HeadForm parts (first :: code :: high :: low :: (parts.token ++ row))

/-- A message is a head and what follows its row. -/
theorem messageForm_iff_head {parts : MessageParts} {bytes : Bytes} :
    MessageForm parts bytes ↔
      ∃ head tail, bytes = head ++ tail ∧ HeadForm parts head ∧ PayloadForm parts.payload tail := by
  rw [messageForm_iff]
  constructor
  · rintro ⟨htoken, first, code, high, low, row, tail, rfl, hheader, hrow, htail⟩
    exact ⟨_, tail, by simp, .mk htoken hheader hrow, htail⟩
  · rintro ⟨_, tail, rfl, hhead, htail⟩
    obtain @⟨first, code, high, low, row, htoken, hheader, hrow⟩ := hhead
    exact ⟨htoken, first, code, high, low, row, tail, by simp, hheader, hrow, htail⟩

theorem HeadForm.headerSize_le {parts : MessageParts} {head : Bytes} (h : HeadForm parts head) :
    headerSize ≤ head.length := by
  cases h
  simp only [headerSize, List.length_cons]
  omega

/-- What has been read once the head is behind. -/
def MessageParts.reading (parts : MessageParts) : Reading where
  message := parts.collected
  number := lastNumber 0 parts.items
  telemetry := parts.telemetry

theorem MessageParts.behind_items (parts : MessageParts) :
    Reading.behind { message := parts.opening } parts.items parts.collected = parts.reading := by
  simp only [Reading.behind, reading, telemetry, Option.or_none]

theorem length_header_token_row (first code high low : UInt8) (token row : Bytes) :
    (first :: code :: high :: low :: (token ++ row)).length
      = headerSize + token.length + row.length := by
  simp only [headerSize, List.length_cons, List.length_append]
  omega

/-- The item that `first` begins is refused: it cannot be read, or what was read cannot be added. -/
inductive Reading.Refuses (reading : Reading) (offset : Nat) (first : UInt8) (rest : Bytes)
    (err : CodecError) : Prop where
  | unread :
      readItem first offset ⟨offset + 1, rest⟩ = .error err → Refuses reading offset first rest err
  | unadded {item : Item} {after : Cursor} :
      readItem first offset ⟨offset + 1, rest⟩ = .ok (item, after) →
      reading.add offset item = .error err → Refuses reading offset first rest err

theorem readItems_cons {first : UInt8} (hmarks : marksPayload first = false) (reading : Reading)
    (offset : Nat) (rest : Bytes) :
    readItems reading offset (first :: rest)
      = readItem first offset ⟨offset + 1, rest⟩ >>= fun read =>
        reading.add offset read.1 >>= fun next => readItems next read.2.offset read.2.rest := by
  rw [readItems, if_neg (by simp [hmarks])]
  split
  · rename_i err hread
    rw [hread]
    rfl
  · rename_i item after hread
    have hrun : (readItem first offset ⟨offset + 1, rest⟩ >>= fun read =>
        reading.add offset read.1 >>= fun next => readItems next read.2.offset read.2.rest)
        = reading.add offset item >>= fun next => readItems next after.offset after.rest := by
      rw [hread, ok_bind]
    rw [hrun]
    cases reading.add offset item <;> rfl

theorem readItems_of_refuses {first : UInt8} (hmarks : marksPayload first = false)
    {reading : Reading} {offset : Nat} {rest : Bytes} {err : CodecError}
    (h : reading.Refuses offset first rest err) :
    readItems reading offset (first :: rest) = .error err := by
  rw [readItems_cons hmarks]
  cases h with
  | unread hread => rw [hread, error_bind]
  | unadded hread hadd => rw [hread, ok_bind, hadd, error_bind]

/-- A row that is not read through has an item that is refused, behind items that are accepted. -/
theorem exists_refused_of_readItems {reading : Reading} {offset : Nat} {bytes : Bytes}
    {err : CodecError} (h : readItems reading offset bytes = .error err) :
    ∃ items row message first rest, ItemRow items row ∧ reading.Accepts items message ∧
      bytes = row ++ first :: rest ∧ marksPayload first = false ∧
        (reading.behind items message).Refuses (offset + row.length) first rest err := by
  -- By induction on the input's length, since an item has at least its first byte.
  induction hlength : bytes.length using Nat.strongRecOn generalizing reading offset bytes with
  | _ length ih =>
    match bytes with
    | [] =>
      rw [readItems_nil] at h
      cases h
    | first :: rest =>
      cases hmarks : marksPayload first with
      | true =>
        rw [readItems_marker hmarks] at h
        cases h
      | false =>
        have hhere : reading.Refuses offset first rest err →
            ∃ items row message first' rest', ItemRow items row ∧ reading.Accepts items message ∧
              first :: rest = row ++ first' :: rest' ∧ marksPayload first' = false ∧
                (reading.behind items message).Refuses (offset + row.length) first' rest' err :=
          fun hrefuses => ⟨[], [], reading.message, first, rest, .nil,
            ⟨by simp [numberedOptions], rfl⟩, rfl, hmarks, hrefuses⟩
        rw [readItems_cons hmarks] at h
        rcases bind_eq_error_iff.mp h with hread | ⟨⟨item, after⟩, hread, h⟩
        · exact hhere (.unread hread)
        rcases bind_eq_error_iff.mp h with hadd | ⟨next, hadd, hnext⟩
        · exact hhere (.unadded hread hadd)
        obtain ⟨consumed, hform, hrest, hoffset⟩ := readItem_eq_ok_iff.mp hread
        simp only at hrest hoffset hnext
        have hshorter : after.rest.length < length := by
          rw [← hlength, hrest, List.length_cons, List.length_append]
          omega
        obtain ⟨items, row, message, first', rest', hrow, haccepts, hbytes, hmarks', hrefuses⟩ :=
          ih _ hshorter hnext rfl
        have hplace : offset + (first :: consumed ++ row).length = after.offset + row.length := by
          rw [hoffset, List.length_append, List.length_cons]
          omega
        refine ⟨item :: items, first :: consumed ++ row, message, first', rest', .cons hform hrow,
          (Reading.accepts_cons_iff offset).mpr ⟨next, hadd, haccepts⟩, ?_, hmarks', ?_⟩
        · rw [hrest, hbytes]
          simp
        · rwa [hplace, ← Reading.behind_of_add hadd]

namespace Message

/-- **The reader behind a head.** Whatever follows an acceptable head, the reader gets there with
what the head's parts make. -/
theorem decodeWithTelemetry_head {parts : MessageParts} {head : Bytes} (hhead : HeadForm parts head)
    (hacceptable : parts.Acceptable) (rest : Bytes) :
    decodeWithTelemetry (head ++ rest)
      = readItems parts.reading head.length rest >>= fun final =>
        .ok (final.message, final.telemetry) := by
  obtain @⟨first, code, high, low, row, htoken, hheader, hrow⟩ := hhead
  let start : Reading := { message := parts.opening }
  have hnumbers : ∀ option ∈ parts.options, option.number ≤ maxOptionNumber :=
    fun option hmem => (hacceptable option hmem).1
  have hfold : parts.options.foldlM absorb parts.opening = .ok parts.collected :=
    foldlM_absorb_options_iff.mpr ⟨fun option hmem => (hacceptable option hmem).2, rfl⟩
  have hwalk : readItems start (headerSize + parts.token.length) (row ++ rest)
      = parts.options.foldlM absorb parts.opening >>= fun message =>
        readItems (start.behind parts.items message)
          (headerSize + parts.token.length + row.length) rest :=
    @readItems_row _ _ hrow start hnumbers _ rest
  rw [length_header_token_row, List.cons_append, List.cons_append, List.cons_append,
    List.cons_append, List.append_assoc, decodeWithTelemetry_header_token htoken hheader, hwalk,
    hfold, ok_bind, parts.behind_items]

theorem decodeWithTelemetry_head_end {parts : MessageParts} {head : Bytes}
    (hhead : HeadForm parts head) (hacceptable : parts.Acceptable) :
    decodeWithTelemetry head = .ok (parts.collected, parts.telemetry) := by
  have hread := decodeWithTelemetry_head hhead hacceptable []
  rwa [List.append_nil, readItems_nil] at hread

theorem decodeWithTelemetry_head_marker {parts : MessageParts} {head : Bytes}
    (hhead : HeadForm parts head) (hacceptable : parts.Acceptable) {marker : UInt8}
    (hmarks : marksPayload marker = true) (payload : Bytes) :
    decodeWithTelemetry (head ++ marker :: payload)
      = .ok ({ parts.collected with payload := payload.take maxPayloadLength }, parts.telemetry) := by
  rw [decodeWithTelemetry_head hhead hacceptable, readItems_marker hmarks, ok_bind]
  rfl

/-- The three places where a reader can fail: in the header, in the token, and at an item behind an
acceptable head. -/
inductive FailsWith (bytes : Bytes) (err : CodecError) : Prop where
  | header : MessageHeader.decode bytes = .error err → FailsWith bytes err
  | token {header : MessageHeader} : MessageHeader.decode bytes = .ok header →
      Cursor.take ⟨headerSize, bytes.drop headerSize⟩ header.tokenLength .token = .error err →
      FailsWith bytes err
  | item {parts : MessageParts} {head rest : Bytes} {first : UInt8} :
      HeadForm parts head → parts.Acceptable → bytes = head ++ first :: rest →
      marksPayload first = false → parts.reading.Refuses head.length first rest err →
      FailsWith bytes err

/-- **Where a reader fails.** It fails at one of these places, and there it always fails. -/
theorem decodeWithTelemetry_eq_error_iff {bytes : Bytes} {err : CodecError} :
    decodeWithTelemetry bytes = .error err ↔ FailsWith bytes err := by
  constructor
  · intro h
    rcases bind_eq_error_iff.mp h with hheader | ⟨header, hheader, hbehind⟩
    · exact .header hheader
    rcases bind_eq_error_iff.mp hbehind with htoken | ⟨⟨token, after⟩, htoken, _⟩
    · exact .token hheader htoken
    obtain ⟨opened, first, code, high, low, hlimit, hparts, rfl⟩ :=
      exists_parts_of_header_token hheader htoken
    rw [decodeWithTelemetry_header_token hlimit hparts, bind_eq_error_iff] at h
    obtain hread | ⟨_, _, hread⟩ := h
    · obtain ⟨items, row, collected, refused, rest, hrow, ⟨hnumbers, hfold⟩, hrest, hmarks,
        hrefuses⟩ := exists_refused_of_readItems hread
      let parts : MessageParts := { opened with items := items }
      obtain ⟨hall, hcollected⟩ := (@foldlM_absorb_options_iff parts collected).mp hfold
      have hacceptable : parts.Acceptable := fun option hmem =>
        ⟨hnumbers option hmem, hall option hmem⟩
      have hhead : HeadForm parts (first :: code :: high :: low :: (opened.token ++ row)) :=
        .mk hlimit hparts hrow
      have hplace : parts.reading.Refuses
          (first :: code :: high :: low :: (opened.token ++ row)).length refused rest err := by
        rw [length_header_token_row, ← parts.behind_items, ← hcollected]
        exact hrefuses
      exact .item hhead hacceptable (by simp [hrest]) hmarks hplace
    · cases hread
  · rintro (hheader | ⟨hheader, htoken⟩ | ⟨hhead, hacceptable, rfl, hmarks, hrefuses⟩)
    · exact bind_eq_error_iff.mpr (.inl hheader)
    · exact bind_eq_error_iff.mpr (.inr ⟨_, hheader, bind_eq_error_iff.mpr (.inl htoken)⟩)
    · rw [decodeWithTelemetry_head hhead hacceptable, readItems_of_refuses hmarks hrefuses,
        error_bind]

end Message

end MeshTelemetry
