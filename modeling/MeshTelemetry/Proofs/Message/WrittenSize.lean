import MeshTelemetry.Proofs.Message.OfferedBlock

/-!
# The size of what is written

How long a message will be can be told without writing it, from its token, from the distances between
the numbers of its options and from the lengths of their values. Two things can stand in the way. A
value that is too long for every option header stops the writer while it is at the options, so the
first such value is the one that is reported, however large the message would have been. Only when all
options are written are header, token and options held against their limit.
-/

namespace MeshTelemetry

/-- The bytes that options take, each numbered from the one before it. -/
def rowSize (previous : Nat) : List WireOption → Nat
  | [] => 0
  | option :: options =>
    1 + Extended.extensionSize (option.number - previous)
      + Extended.extensionSize option.value.length + option.value.length
      + rowSize option.number options

namespace WireOption

/-- No option header can announce the value. -/
def isTooLong (option : WireOption) : Bool := maxExtended < option.value.length

theorem encode_of_isTooLong {option : WireOption} (h : option.isTooLong = true) (previous : Nat) :
    option.encode previous = .error (.optionTooLong option.number option.value.length) := by
  have hlong : maxExtended < option.value.length := of_decide_eq_true h
  unfold encode OptionHeader.encode
  simp only
  rw [if_pos hlong, error_bind]

theorem exists_encode {option : WireOption} (h : ¬ option.isTooLong = true) (previous : Nat) :
    ∃ bytes, option.encode previous = .ok bytes ∧
      bytes.length = 1 + Extended.extensionSize (option.number - previous)
        + Extended.extensionSize option.value.length + option.value.length := by
  have hfits : option.value.length ≤ maxExtended := by
    apply Nat.le_of_not_lt
    intro hlong
    exact h (decide_eq_true hlong)
  refine ⟨_, encode_eq_ok_iff.mpr ⟨hfits, rfl⟩, ?_⟩
  rw [List.length_append, OptionHeader.bytes_length, OptionHeader.size]

end WireOption

theorem encodeOptions_cons (previous : Nat) (option : WireOption) (options : List WireOption) :
    encodeOptions previous (option :: options) = do
      let head ← option.encode previous
      let rest ← encodeOptions option.number options
      return head ++ rest := by
  unfold encodeOptions
  simp only [List.map_cons, List.zip_cons_cons, List.mapM_cons]
  cases option.encode previous with
  | error err => rfl
  | ok head =>
    simp only [ok_bind]
    generalize (List.mapM _ _ : Except CodecError (List Bytes)) = rest
    cases rest with
    | error err => rfl
    | ok parts => rfl

/-- The writer stops at the first value that is too long. -/
theorem encodeOptions_of_find? {options : List WireOption} {tooLong : WireOption}
    (h : options.find? WireOption.isTooLong = some tooLong) (previous : Nat) :
    encodeOptions previous options
      = .error (.optionTooLong tooLong.number tooLong.value.length) := by
  induction options generalizing previous with
  | nil => cases h
  | cons option options ih =>
    rw [encodeOptions_cons]
    by_cases hfirst : option.isTooLong = true
    · rw [List.find?_cons_of_pos hfirst] at h
      cases h
      rw [WireOption.encode_of_isTooLong hfirst, error_bind]
    · rw [List.find?_cons_of_neg hfirst] at h
      obtain ⟨head, hhead, _⟩ := WireOption.exists_encode hfirst previous
      rw [hhead, ok_bind, ih h option.number, error_bind]

theorem exists_encodeOptions {options : List WireOption}
    (h : options.find? WireOption.isTooLong = none) (previous : Nat) :
    ∃ row, encodeOptions previous options = .ok row ∧ row.length = rowSize previous options := by
  induction options generalizing previous with
  | nil => exact ⟨[], encodeOptions_nil previous, rfl⟩
  | cons option options ih =>
    have hfirst : ¬ option.isTooLong = true := by
      intro hlong
      rw [List.find?_cons_of_pos hlong] at h
      cases h
    rw [List.find?_cons_of_neg hfirst] at h
    obtain ⟨head, hhead, hheadLength⟩ := WireOption.exists_encode hfirst previous
    obtain ⟨rest, hrest, hrestLength⟩ := ih h option.number
    refine ⟨head ++ rest, ?_, ?_⟩
    · rw [encodeOptions_cons, hhead, ok_bind, hrest, ok_bind]
      rfl
    · rw [List.length_append, hheadLength, hrestLength, rowSize]

/-- The size of a row that was written. -/
theorem length_of_encodeOptions {previous : Nat} {options : List WireOption} {row : Bytes}
    (h : encodeOptions previous options = .ok row) : row.length = rowSize previous options := by
  cases htooLong : options.find? WireOption.isTooLong with
  | some tooLong =>
    rw [encodeOptions_of_find? htooLong] at h
    cases h
  | none =>
    obtain ⟨written, hwritten, hlength⟩ := exists_encodeOptions htooLong previous
    rw [h] at hwritten
    cases hwritten
    exact hlength

namespace Message

/-- The bytes of header, token and options. -/
def headSize (message : Message) : Nat :=
  headerSize + message.token.length + rowSize 0 message.wireOptions

/-- The bytes of the payload and of the marker before it. -/
def payloadSize (message : Message) : Nat :=
  if message.payload = [] then 0 else 1 + message.payload.length

/-- How many bytes are written, or why none are. -/
def writtenSize (message : Message) : Except CodecError Nat :=
  if message.isEmpty then .ok headerSize
  else
    match message.wireOptions.find? WireOption.isTooLong with
    | some option => .error (.optionTooLong option.number option.value.length)
    | none =>
      if maxHeaderSize < message.headSize then
        .error (.headerTooLarge message.headSize maxHeaderSize)
      else .ok (message.headSize + message.payloadSize)

variable {message : Message}

theorem length_front {row : Bytes} (hrow : encodeOptions 0 message.wireOptions = .ok row) :
    (message.front row).length = message.headSize := by
  have hheader : (MessageHeader.ofParts message.kind message.code message.messageId
      message.token.length).encode.length = headerSize := by
    simp [MessageHeader.encode, bytesBE_length, headerSize]
  rw [front, List.length_append, List.length_append, hheader, length_of_encodeOptions hrow,
    headSize]

theorem length_payloadPart (message : Message) :
    message.payloadPart.length = message.payloadSize := by
  unfold payloadPart payloadSize
  cases message.payload with
  | nil => rfl
  | cons byte rest => exact Nat.add_comm _ 1

/-- The options can be written, and what is left to decide is whether the head is too large. -/
theorem encodeWith_of_row (hcode : message.isEmpty = false) {row : Bytes}
    (hrow : encodeOptions 0 message.wireOptions = .ok row) (block : Option Bytes) :
    message.encodeWith block
      = if maxHeaderSize < message.headSize then
          .error (.headerTooLarge message.headSize maxHeaderSize)
        else .ok (message.front row ++ message.blockPart block ++ message.payloadPart) := by
  rw [← length_front hrow, encodeWith, if_neg (by simp [hcode]), hrow]
  rfl

theorem encodeWith_of_find? (hcode : message.isEmpty = false) {tooLong : WireOption}
    (h : message.wireOptions.find? WireOption.isTooLong = some tooLong) (block : Option Bytes) :
    message.encodeWith block
      = .error (.optionTooLong tooLong.number tooLong.value.length) := by
  rw [encodeWith, if_neg (by simp [hcode]), encodeOptions_of_find? h, error_bind]

theorem length_encode_of_row (hcode : message.isEmpty = false) {row : Bytes}
    (hrow : encodeOptions 0 message.wireOptions = .ok row) :
    message.encode.map List.length
      = if maxHeaderSize < message.headSize then
          .error (.headerTooLarge message.headSize maxHeaderSize)
        else .ok (message.headSize + message.payloadSize) := by
  have hlength : (message.front row ++ message.blockPart none ++ message.payloadPart).length
      = message.headSize + message.payloadSize := by
    rw [blockPart, List.append_nil, List.length_append, length_front hrow, length_payloadPart]
  rw [encode, encodeWith_of_row hcode hrow]
  by_cases hlarge : maxHeaderSize < message.headSize
  · rw [if_pos hlarge, if_pos hlarge]
    rfl
  · rw [if_neg hlarge, if_neg hlarge]
    exact congrArg Except.ok hlength

/-- **The size of what is written.** The options of a message go out in ascending order, each known,
and with all the values that the message holds for it. From them follows how many bytes are written,
and if none are, for which reason. -/
theorem length_encode_eq (message : Message) :
    (message.wireOptions.Pairwise fun first second => first.number ≤ second.number) ∧
      (∀ option ∈ message.wireOptions, ∃ kind : OptionKind, kind.number = option.number) ∧
        valuesOf message.wireOptions = message.values ∧
          message.encode.map List.length = message.writtenSize := by
  refine ⟨message.wireOptions_pairwise, ?_, message.valuesOf_wireOptions, ?_⟩
  · intro option hmem
    obtain ⟨kind, hkind, _⟩ := mem_wireOptions.mp hmem
    exact ⟨kind, hkind⟩
  · unfold writtenSize
    cases hempty : message.isEmpty with
    | true =>
      rw [encode, encodeWith_of_isEmpty hempty]
      rfl
    | false =>
      rw [if_neg Bool.false_ne_true]
      cases htooLong : message.wireOptions.find? WireOption.isTooLong with
      | some tooLong =>
        rw [encode, encodeWith_of_find? hempty htooLong]
        rfl
      | none =>
        obtain ⟨row, hrow, _⟩ := exists_encodeOptions htooLong 0
        exact length_encode_of_row hempty hrow

/-- Two segments of a path, each with its own option header, and the marker before the payload. -/
example :
    let message : Message :=
      { kind := .confirmable, code := .get, messageId := 1, uriPath := some "a/b",
        payload := [1, 2] }
    message.writtenSize = .ok 11 := by decide +kernel

end Message

end MeshTelemetry
