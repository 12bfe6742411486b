import MeshTelemetry.Proofs.Message.ReaderRun

/-!
# More input behind what was read

A message may come in pieces, or be cut on its way. What the reader has said of the first bytes stays
true when more bytes follow, unless it has said that there were too few: a fault stays the same fault,
and a message stays the same message but for its payload, which reaches to the end of the input. So
a message that was cut is never taken for one that is wrong.
-/

namespace MeshTelemetry

/-- The input ends with the row of items, before any marker. -/
def EndsWithRow (bytes : Bytes) : Prop :=
  ∃ parts, HeadForm parts bytes ∧ parts.Acceptable

/-- The row of items ends at a marker, and this stands behind it. -/
def EndsWithPayload (bytes payload : Bytes) : Prop :=
  ∃ parts head marker, HeadForm parts head ∧ parts.Acceptable ∧ marksPayload marker = true ∧
    bytes = head ++ marker :: payload

theorem MessageHeader.decode_append_of_error {bytes : Bytes} {err : CodecError}
    (h : decode bytes = .error err) (hcut : err.isCut = false) (more : Bytes) :
    decode (bytes ++ more) = .error err := by
  match bytes with
  | first :: code :: high :: low :: rest => exact h
  | [] | [_] | [_, _] | [_, _, _] =>
    cases h
    cases hcut

/-- An item is refused for what it is, so it is refused as well if more follows. -/
theorem Reading.Refuses.append {reading : Reading} {offset : Nat} {first : UInt8} {rest : Bytes}
    {err : CodecError} (h : reading.Refuses offset first rest err) (hcut : err.isCut = false)
    (more : Bytes) : reading.Refuses offset first (rest ++ more) err := by
  have hforward := readsForward_readItem first offset
  cases h with
  | unread hread =>
    rcases hforward.error hread with ⟨field, place, rfl, _⟩ | ⟨_, hmore⟩
    · cases hcut
    · exact .unread (hmore more)
  | unadded hread hadd => exact .unadded ((hforward.ok hread).2 more) hadd

namespace Message

theorem decodeWithTelemetry_append_of_error {bytes : Bytes} {err : CodecError}
    (h : decodeWithTelemetry bytes = .error err) (hcut : err.isCut = false) (more : Bytes) :
    decodeWithTelemetry (bytes ++ more) = .error err := by
  rw [decodeWithTelemetry_eq_error_iff] at h ⊢
  cases h with
  | header hheader => exact .header (MessageHeader.decode_append_of_error hheader hcut more)
  | token hheader htoken =>
    cases Cursor.eq_of_take_eq_error htoken
    cases hcut
  | item hhead hacceptable hbytes hmarks hrefuses =>
    refine .item hhead hacceptable ?_ hmarks (hrefuses.append hcut more)
    rw [hbytes, List.append_assoc, List.cons_append]

/-- A message that ends without a payload takes the one that is put behind it. -/
theorem decodeWithTelemetry_append_payload {bytes : Bytes} (hends : EndsWithRow bytes)
    {message : Message} {telemetry : Option Bytes}
    (h : decodeWithTelemetry bytes = .ok (message, telemetry)) (payload : Bytes) :
    decodeWithTelemetry (bytes ++ 0xFF :: payload)
      = .ok ({ message with payload := payload.take maxPayloadLength }, telemetry) := by
  obtain ⟨parts, hhead, hacceptable⟩ := hends
  rw [decodeWithTelemetry_head_end hhead hacceptable] at h
  cases h
  exact decodeWithTelemetry_head_marker hhead hacceptable (by decide) payload

/-- A payload goes on with what is put behind it. -/
theorem decodeWithTelemetry_extend_payload {bytes payload : Bytes}
    (hends : EndsWithPayload bytes payload) {message : Message} {telemetry : Option Bytes}
    (h : decodeWithTelemetry bytes = .ok (message, telemetry)) (more : Bytes) :
    message.payload = payload.take maxPayloadLength ∧
      decodeWithTelemetry (bytes ++ more)
        = .ok ({ message with payload := (payload ++ more).take maxPayloadLength }, telemetry) := by
  obtain ⟨parts, head, marker, hhead, hacceptable, hmarks, rfl⟩ := hends
  rw [decodeWithTelemetry_head_marker hhead hacceptable hmarks] at h
  cases h
  refine ⟨rfl, ?_⟩
  rw [List.append_assoc, List.cons_append]
  exact decodeWithTelemetry_head_marker hhead hacceptable hmarks (payload ++ more)

/-- Input that is read ends in one of the two ways, and not in both. -/
theorem ends_of_decodeWithTelemetry {bytes : Bytes} {message : Message} {telemetry : Option Bytes}
    (h : decodeWithTelemetry bytes = .ok (message, telemetry)) :
    Xor (EndsWithRow bytes) (∃ payload, EndsWithPayload bytes payload) := by
  rw [xor_iff_or_and_not_and]
  constructor
  · obtain ⟨parts, hform, hacceptable, _⟩ := exists_form_of_decodeWithTelemetry h
    obtain ⟨head, tail, hbytes, hhead, htail⟩ := messageForm_iff_head.mp hform
    generalize parts.payload = payload at htail
    cases htail with
    | absent =>
      rw [List.append_nil] at hbytes
      exact .inl ⟨parts, hbytes ▸ hhead, hacceptable⟩
    | present hle hne =>
      exact .inr ⟨_, parts, head, _, hhead, hacceptable, marksPayload_iff.mpr ⟨hle, hne⟩, hbytes⟩
  · -- Behind a row a new marker starts an empty payload, and behind a payload it belongs to it.
    rintro ⟨hrow, payload, hpayload⟩
    have hbare := decodeWithTelemetry_append_payload hrow h []
    have hlonger := (decodeWithTelemetry_extend_payload hpayload h [0xFF]).2
    rw [hbare] at hlonger
    simp [maxPayloadLength] at hlonger

/-- **Reading is stable under more input.** An error other than that of a cut message stays. A
message that ends with its row of items stays the same with a payload behind it, and a message that
ends with a payload stays the same with a longer one. So a message that was cut is reported as cut. -/
theorem decodeWithTelemetry_append (bytes more : Bytes) :
    (∀ err, decodeWithTelemetry bytes = .error err → err.isCut = false →
      decodeWithTelemetry (bytes ++ more) = .error err) ∧
    (∀ message telemetry, decodeWithTelemetry bytes = .ok (message, telemetry) →
      Xor (EndsWithRow bytes) (∃ payload, EndsWithPayload bytes payload) ∧
      (EndsWithRow bytes → decodeWithTelemetry (bytes ++ 0xFF :: more)
        = .ok ({ message with payload := more.take maxPayloadLength }, telemetry)) ∧
      (∀ payload, EndsWithPayload bytes payload →
        message.payload = payload.take maxPayloadLength ∧
          decodeWithTelemetry (bytes ++ more) = .ok
            ({ message with payload := (payload ++ more).take maxPayloadLength }, telemetry))) ∧
    (∀ result err, decodeWithTelemetry (bytes ++ more) = .ok result →
      decodeWithTelemetry bytes = .error err → err.isCut = true) := by
  refine ⟨fun err h hcut => decodeWithTelemetry_append_of_error h hcut more, ?_, ?_⟩
  · intro message telemetry h
    exact ⟨ends_of_decodeWithTelemetry h,
      fun hends => decodeWithTelemetry_append_payload hends h more,
      fun payload hends => decodeWithTelemetry_extend_payload hends h more⟩
  · intro result err hwhole h
    by_contra hcut
    rw [decodeWithTelemetry_append_of_error h (by simpa using hcut) more] at hwhole
    cases hwhole

/-- A request for `a` that carries a telemetry block of one byte. -/
def shortRequest : Bytes := [0x40, 0x01, 0x00, 0x07, 0xB1, 0x61, 0xFA, 0x01, 0x05]

theorem endsWithRow_shortRequest : EndsWithRow shortRequest := by
  let parts : MessageParts :=
    { kind := .confirmable
      code := .get
      messageId := 7
      token := []
      items := [.option 11 [0x61], .block [0x05]]
      payload := [] }
  have hpath : (Item.option 11 [0x61]).Form [0xB1, 0x61] :=
    @Item.Form.option 0xB1 [] [] [0x61] 11 (.short (by decide)) (.short (by decide))
  have hrow : ItemRow parts.items [0xB1, 0x61, 0xFA, 0x01, 0x05] :=
    .cons hpath (.cons (@Item.Form.block 0x01 [0x05] rfl) .nil)
  have habsorb : parts.opening.absorb ⟨11, [0x61]⟩
      = .ok { parts.opening with uriPath := some "a" } := by decide +kernel
  refine ⟨parts, .mk (by decide) (by decide) hrow, fun option hmem => ?_⟩
  rw [List.mem_singleton.mp hmem]
  exact ⟨by decide, acceptable_of_absorb habsorb⟩

/-- The request may end here or go on with a payload; with a reserved nibble behind it, it is wrong
for good; and without its last byte it is cut. -/
theorem decodeWithTelemetry_append_shortRequest :
    let message : Message :=
      { kind := .confirmable, code := .get, messageId := 7, uriPath := some "a" }
    (decodeWithTelemetry shortRequest = .ok (message, some [0x05]) ∧
      decodeWithTelemetry (shortRequest ++ 0xFF :: [1, 2])
        = .ok ({ message with payload := [1, 2] }, some [0x05])) ∧
    (EndsWithPayload (shortRequest ++ [0xF1, 9]) [9] ∧
      decodeWithTelemetry (shortRequest ++ [0xF1, 9] ++ [1, 2])
        = .ok ({ message with payload := [9, 1, 2] }, some [0x05])) ∧
    (decodeWithTelemetry (shortRequest ++ [0x1F]) = .error (.reservedNibble 9) ∧
      decodeWithTelemetry (shortRequest ++ [0x1F] ++ [1, 2]) = .error (.reservedNibble 9)) ∧
    (decodeWithTelemetry (shortRequest.take 8) = .error (.truncated .telemetryBlock 8) ∧
      (CodecError.truncated .telemetryBlock 8).isCut = true) := by
  intro message
  have hread : decodeWithTelemetry shortRequest = .ok (message, some [0x05]) := by decide +kernel
  have hpayload : decodeWithTelemetry (shortRequest ++ [0xF1, 9])
      = .ok ({ message with payload := [9] }, some [0x05]) := by decide +kernel
  have hreserved : decodeWithTelemetry (shortRequest ++ [0x1F]) = .error (.reservedNibble 9) := by
    decide +kernel
  have hcut : decodeWithTelemetry (shortRequest.take 8) = .error (.truncated .telemetryBlock 8) := by
    decide +kernel
  have hends : EndsWithPayload (shortRequest ++ [0xF1, 9]) [9] := by
    obtain ⟨parts, hhead, hacceptable⟩ := endsWithRow_shortRequest
    exact ⟨parts, shortRequest, 0xF1, hhead, hacceptable, by decide, rfl⟩
  refine ⟨⟨hread, ?_⟩, ⟨hends, ?_⟩, ⟨hreserved, ?_⟩, ⟨hcut, ?_⟩⟩
  · exact ((decodeWithTelemetry_append shortRequest [1, 2]).2.1 _ _ hread).2.1
      endsWithRow_shortRequest
  · exact (((decodeWithTelemetry_append _ [1, 2]).2.1 _ _ hpayload).2.2 [9] hends).2
  · exact (decodeWithTelemetry_append _ [1, 2]).1 _ hreserved rfl
  · exact (decodeWithTelemetry_append (shortRequest.take 8) [0x05]).2.2 _ _ hread hcut

end Message

end MeshTelemetry
