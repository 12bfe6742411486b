import MeshTelemetry.Proofs.Message.ReaderRun

/-!
# What input can do wrong

A node reads whatever comes from the network, so it has to be known which errors that can cause. Each
of them goes back to something in the input: a header that is short or wrong, an option that breaks
the grammar or that the node refuses, or an end that comes too early. Whatever is no message at all is
answered with 4.00, a refused option with its own code, and nothing that comes in makes the node
report a failure of its own. An error that names a place names one where the reader was.
-/

namespace MeshTelemetry

/-- The reader comes to this offset over a head that it takes, and has this before it. -/
structure ReachedAt (bytes : Bytes) (offset : Nat) (parts : MessageParts) (behind : Bytes) : Prop where
  head : HeadForm parts (bytes.take offset)
  acceptable : parts.Acceptable
  behind_eq : bytes.drop offset = behind

/-- An option begins at this offset. Its number is the sum of all distances up to it. -/
def OptionAt (bytes : Bytes) (offset number : Nat) (value : Bytes) : Prop :=
  ∃ parts delta spelled after, ReachedAt bytes offset parts (spelled ++ after) ∧
    (Item.option delta value).Form spelled ∧ number = lastNumber 0 parts.items + delta

/-- What is wrong with the bytes when a reader fails on them, by the error that it reports. -/
inductive InputFault (bytes : Bytes) : CodecError → Prop where
  | messageTooShort : bytes.length < headerSize →
      InputFault bytes (.messageTooShort headerSize bytes.length)
  | unsupportedVersion {first : UInt8} : bytes.head? = some first →
      first.toNat / 64 ≠ protocolVersion →
      InputFault bytes (.unsupportedVersion (first.toNat / 64))
  | tokenTooLong {first : UInt8} : bytes.head? = some first →
      maxTokenLength < first.toNat % 16 → InputFault bytes (.tokenTooLong (first.toNat % 16))
  | truncated {field : Field} {offset : Nat} : headerSize ≤ offset → offset ≤ bytes.length →
      InputFault bytes (.truncated field offset)
  | reservedNibble {offset : Nat} {parts : MessageParts} {first : UInt8} {rest : Bytes} :
      ReachedAt bytes offset parts (first :: rest) → first.toNat / 16 ≤ 14 →
      first.toNat % 16 = 15 → InputFault bytes (.reservedNibble offset)
  | optionNumberOverflow {offset number : Nat} {value : Bytes} :
      OptionAt bytes offset number value → maxOptionNumber < number →
      InputFault bytes (.optionNumberOverflow offset)
  | badOption {offset number : Nat} {value : Bytes} :
      OptionAt bytes offset number value → number ≤ maxOptionNumber → number % 2 = 1 →
      (∀ kind : OptionKind, kind.number ≠ number) → InputFault bytes (.badOption number)
  | proxyingNotSupported {offset : Nat} {value : Bytes} {kind : OptionKind} :
      OptionAt bytes offset kind.number value → kind.isProxy = true →
      InputFault bytes (.proxyingNotSupported kind.number)
  | invalidUtf8 {offset : Nat} {value : Bytes} {kind : OptionKind} :
      OptionAt bytes offset kind.number value → kind.isText = true →
      (¬ ∃ text, Text.utf8 text = value) → InputFault bytes (.invalidUtf8 kind.number)

/-- An item that the reader comes to begins behind the header and before the end. -/
theorem ReachedAt.bounds {bytes rest : Bytes} {offset : Nat} {parts : MessageParts} {first : UInt8}
    (h : ReachedAt bytes offset parts (first :: rest)) :
    headerSize ≤ offset ∧ offset < bytes.length := by
  have hhead := h.head.headerSize_le
  have hbehind := congrArg List.length h.behind_eq
  rw [List.length_take] at hhead
  rw [List.length_drop, List.length_cons] at hbehind
  omega

theorem OptionAt.bounds {bytes value : Bytes} {offset number : Nat}
    (h : OptionAt bytes offset number value) : headerSize ≤ offset ∧ offset < bytes.length := by
  obtain ⟨parts, delta, spelled, after, hreached, hform, _⟩ := h
  obtain ⟨first, rest, rfl, _⟩ := hform.head
  exact ReachedAt.bounds hreached

theorem reachedAt_head {parts : MessageParts} {head : Bytes} (hhead : HeadForm parts head)
    (hacceptable : parts.Acceptable) (behind : Bytes) :
    ReachedAt (head ++ behind) head.length parts behind where
  head := by rwa [List.take_left]
  acceptable := hacceptable
  behind_eq := List.drop_left

theorem MessageHeader.inputFault_of_decode {bytes : Bytes} {err : CodecError}
    (h : decode bytes = .error err) : InputFault bytes err := by
  match bytes with
  | first :: code :: high :: low :: rest =>
    rcases bind_eq_error_iff.mp h with hvalid | ⟨_, _, h⟩
    · unfold validate at hvalid
      split at hvalid
      · rename_i hversion
        cases hvalid
        exact .unsupportedVersion rfl hversion
      · split at hvalid
        · rename_i htoken
          cases hvalid
          exact .tokenTooLong rfl htoken
        · cases hvalid
    · cases h
  | [] | [_] | [_, _] | [_, _, _] =>
    cases h
    exact .messageTooShort (by simp [headerSize])

namespace Message

/-- A known option is refused if it is for proxies, or if it has to be text and is none. -/
theorem absorbKnown_eq_error {message : Message} {kind : OptionKind} {value : Bytes}
    {err : CodecError} (h : message.absorbKnown kind value = .error err) :
    kind.isProxy = true ∧ err = .proxyingNotSupported kind.number ∨
      kind.isText = true ∧ (¬ ∃ text, Text.utf8 text = value) ∧ err = .invalidUtf8 kind.number := by
  cases hproxy : kind.isProxy with
  | true =>
    rw [absorbKnown_proxy hproxy] at h
    cases h
    exact .inl ⟨rfl, rfl⟩
  | false =>
    right
    have htext : kind.isText = true := by
      cases kind
      case uriHost | locationPath | uriPath | uriQuery | locationQuery => rfl
      case proxyUri | proxyScheme => cases hproxy
      all_goals cases h
    have hvalue : ¬ ∃ text, Text.utf8 text = value := by
      rintro ⟨text, rfl⟩
      cases kind
      case uriHost | locationPath | uriPath | uriQuery | locationQuery =>
        simp only [absorbKnown, readText_utf8] at h
        cases h
      all_goals cases htext
    rw [absorbKnown_no_text htext hvalue] at h
    cases h
    exact ⟨htext, hvalue, rfl⟩

end Message

/-- A refused item is cut, has a reserved nibble, or is an option that cannot be added. -/
theorem inputFault_of_refuses {parts : MessageParts} {head rest : Bytes} {first : UInt8}
    {err : CodecError} (hhead : HeadForm parts head) (hacceptable : parts.Acceptable)
    (hmarks : marksPayload first = false)
    (h : parts.reading.Refuses head.length first rest err) :
    InputFault (head ++ first :: rest) err := by
  have hreached := reachedAt_head hhead hacceptable (first :: rest)
  cases h with
  | unread hread =>
    rcases (readsForward_readItem first head.length).error hread with
      ⟨field, offset, rfl, hle, hstop⟩ | ⟨⟨rfl, hmarker, hreserved⟩, _⟩
    · have hheader := hhead.headerSize_le
      simp only [Cursor.stop] at hle hstop
      refine .truncated (by omega) ?_
      rw [List.length_append, List.length_cons]
      omega
    · have hnibble := (marksPayload_eq_false_iff.mp hmarks).resolve_right hmarker
      have hlow := hreserved.resolve_left (by omega)
      exact .reservedNibble hreached hnibble (by omega)
  | @unadded item after hread hadd =>
    obtain ⟨consumed, hform, hrest, _⟩ := readItem_eq_ok_iff.mp hread
    simp only at hrest
    cases item with
    | block bytes => cases hadd
    | option delta value =>
      have hoption : OptionAt (head ++ first :: rest) head.length
          (lastNumber 0 parts.items + delta) value := by
        refine ⟨parts, delta, first :: consumed, after.rest, ?_, hform, rfl⟩
        rwa [List.cons_append, ← hrest]
      generalize hnumber : lastNumber 0 parts.items + delta = number at hoption
      simp only [Reading.add, MessageParts.reading, hnumber] at hadd
      split at hadd
      · rename_i hoverflow
        cases hadd
        exact .optionNumberOverflow hoption hoverflow
      rename_i hfits
      rcases bind_eq_error_iff.mp hadd with habsorb | ⟨_, _, h⟩
      · by_cases hknown : ∃ kind : OptionKind, kind.number = number
        · obtain ⟨kind, rfl⟩ := hknown
          rw [Message.absorb_of_known rfl] at habsorb
          rcases Message.absorbKnown_eq_error habsorb with ⟨hproxy, rfl⟩ | ⟨htext, hvalue, rfl⟩
          · exact .proxyingNotSupported hoption hproxy
          · exact .invalidUtf8 hoption htext hvalue
        · have hunknown : ∀ kind : OptionKind, kind.number ≠ number :=
            fun kind hkind => hknown ⟨kind, hkind⟩
          rw [Message.absorb_of_unknown hunknown] at habsorb
          split at habsorb
          · rename_i hcritical
            cases habsorb
            exact .badOption hoption (Nat.not_lt.mp hfits) (of_decide_eq_true hcritical) hunknown
          · cases habsorb
      · cases h

namespace Message

theorem inputFault_of_decodeWithTelemetry {bytes : Bytes} {err : CodecError}
    (h : decodeWithTelemetry bytes = .error err) : InputFault bytes err := by
  rcases decodeWithTelemetry_eq_error_iff.mp h with
    hheader | ⟨hheader, htoken⟩ | ⟨hhead, hacceptable, rfl, hmarks, hrefuses⟩
  · exact MessageHeader.inputFault_of_decode hheader
  · obtain ⟨first, code, high, low, rest, rfl, _⟩ := MessageHeader.decode_eq_ok_iff.mp hheader
    cases Cursor.eq_of_take_eq_error htoken
    refine .truncated (Nat.le_refl _) ?_
    simp [headerSize]
  · exact inputFault_of_refuses hhead hacceptable hmarks hrefuses

theorem decodeWithTelemetry_of_decode_error {bytes : Bytes} {err : CodecError}
    (h : decode bytes = .error err) : decodeWithTelemetry bytes = .error err := by
  unfold decode at h
  cases hread : decodeWithTelemetry bytes with
  | error cause =>
    rw [hread] at h
    cases h
    rfl
  | ok result =>
    rw [hread] at h
    cases h

/-- **What input can do wrong.** An error of the reader goes back to a fault of the input. Its
response code is 4.00 exactly if the input was no message, and never 5.00; a place that it names is
one where the reader was. -/
theorem inputFault_of_error {bytes : Bytes} {err : CodecError}
    (h : decode bytes = .error err ∨ decodeWithTelemetry bytes = .error err) :
    InputFault bytes err ∧
    (err.isMalformed = true ↔ err.responseCode = Code.badRequest) ∧
    err.responseCode ≠ Code.internalServerError ∧
    (∀ number, err = .proxyingNotSupported number → number = 35 ∨ number = 39) ∧
    (∀ field offset, err = .truncated field offset →
      headerSize ≤ offset ∧ offset ≤ bytes.length) ∧
    (∀ offset, err = .reservedNibble offset ∨ err = .optionNumberOverflow offset →
      headerSize ≤ offset ∧ offset < bytes.length) := by
  have hfault : InputFault bytes err :=
    inputFault_of_decodeWithTelemetry (h.elim decodeWithTelemetry_of_decode_error id)
  refine ⟨hfault, ?_, ?_, ?_, ?_, ?_⟩
  · cases hfault <;> simp only [CodecError.isMalformed, CodecError.responseCode] <;> decide
  · cases hfault <;> simp only [CodecError.responseCode] <;> decide
  · rintro _ rfl
    cases hfault with
    | @proxyingNotSupported offset value kind _ hproxy =>
      cases kind
      case proxyUri => exact .inl rfl
      case proxyScheme => exact .inr rfl
      all_goals cases hproxy
  · rintro field offset rfl
    cases hfault with
    | truncated hle hend => exact ⟨hle, hend⟩
  · rintro offset (rfl | rfl)
    · cases hfault with
      | reservedNibble hreached => exact hreached.bounds
    · cases hfault with
      | optionNumberOverflow hoption => exact hoption.bounds

/-- A request with a token, a path and a telemetry block, and an option whose distance is the
greatest that a header can hold. -/
def overflowingRequest : Bytes :=
  [0x41, 0x01, 0x00, 0x07, 0xAA, 0xB1, 0x61, 0xFA, 0x01, 0x05, 0xE0, 0xFF, 0xFF]

theorem inputFault_of_error_overflowingRequest :
    decode overflowingRequest = .error (.optionNumberOverflow 10) ∧
      InputFault overflowingRequest (.optionNumberOverflow 10) ∧
        (CodecError.optionNumberOverflow 10).responseCode = Code.badRequest ∧
          headerSize ≤ 10 ∧ 10 < overflowingRequest.length := by
  have hread : decode overflowingRequest = .error (.optionNumberOverflow 10) := by decide +kernel
  obtain ⟨hfault, hmalformed, _, _, _, hbounds⟩ := inputFault_of_error (.inl hread)
  exact ⟨hread, hfault, hmalformed.mp rfl, hbounds 10 (.inr rfl)⟩

end Message

end MeshTelemetry
