import MeshTelemetry.Proofs.Message.CanonicalValue
import MeshTelemetry.Proofs.Message.RoundTrip

/-!
# The canonical wire format

Of the many spellings that a reader takes, a writer uses one. The canonical bytes are described
without reader and writer: known options with canonical values, each single-valued option once, no
telemetry block, a head that is not too large, and a payload of one chunk behind the marker 0xFF. On
these bytes writing undoes reading, because the options, being in ascending order, are determined by
their values; and whatever a writer makes is among them.
-/

namespace MeshTelemetry

/-- How the wire spells a payload that a writer sends: not at all if there is none. -/
inductive CanonicalTail : Bytes → Bytes → Prop where
  | absent : CanonicalTail [] []
  | present {payload : Bytes} :
      1 ≤ payload.length → payload.length ≤ 64 → CanonicalTail payload (0xFF :: payload)

/-- Every option is known and has a canonical value, and only parts of a text repeat. -/
structure MessageParts.Canonical (parts : MessageParts) : Prop where
  code_ne : parts.code ≠ Code.empty
  no_block : telemetryBlocks parts.items = []
  option : ∀ option ∈ parts.options, ∃ kind : OptionKind,
    kind.number = option.number ∧ kind.format.Canonical option.value
  once : ∀ kind : OptionKind, kind.format.repeats = false →
    (valuesOf parts.options kind).length ≤ 1

/-- How the wire spells canonical parts: header, token and options take at most 70 bytes. -/
inductive CanonicalForm : MessageParts → Bytes → Prop where
  | mk {parts : MessageParts} {first high low : UInt8} {row tail : Bytes} :
      first.toNat = 64 + parts.kind.bits * 16 + parts.token.length →
      parts.token.length ≤ 8 →
      parts.messageId.toNat = high.toNat * 256 + low.toNat →
      ItemRow parts.items row →
      CanonicalTail parts.payload tail →
      parts.Canonical →
      4 + parts.token.length + row.length ≤ 70 →
      CanonicalForm parts
        (first :: parts.code.byte :: high :: low :: (parts.token ++ (row ++ tail)))

theorem CanonicalTail.payloadForm {payload tail : Bytes} (h : CanonicalTail payload tail) :
    PayloadForm payload tail := by
  cases h with
  | absent => exact .absent
  | present => exact .present (by decide) (by decide)

theorem CanonicalTail.length_le {payload tail : Bytes} (h : CanonicalTail payload tail) :
    payload.length ≤ maxPayloadLength := by
  cases h with
  | absent => exact Nat.zero_le _
  | present _ hle => exact hle

theorem CanonicalForm.messageForm {parts : MessageParts} {bytes : Bytes}
    (h : CanonicalForm parts bytes) : MessageForm parts bytes := by
  cases h with
  | mk hfirst htoken hid hrow htail => exact .mk hfirst htoken hid hrow htail.payloadForm

theorem OptionKind.acceptable_of_canonical {kind : OptionKind} {value : Bytes}
    (h : kind.format.Canonical value) : WireOption.Acceptable ⟨kind.number, value⟩ where
  not_proxy other hother := by
    rw [number_injective hother]
    cases kind
    case proxyUri | proxyScheme => exact absurd h id
    all_goals rfl
  known_or_elective := .inl ⟨kind, rfl⟩
  is_text other hother htext := by
    rw [number_injective hother] at htext
    cases kind
    case uriHost => exact h
    case locationPath | uriPath | uriQuery | locationQuery =>
      obtain ⟨text, hvalue, _⟩ := h
      exact ⟨text, hvalue⟩
    all_goals cases htext

namespace MessageParts.Canonical

variable {parts : MessageParts}

theorem acceptable (h : parts.Canonical) : parts.Acceptable := by
  intro option hmem
  obtain ⟨kind, hkind, hvalue⟩ := h.option option hmem
  have haccepted := OptionKind.acceptable_of_canonical hvalue
  have hnumber := kind.number_le
  rw [hkind] at haccepted hnumber
  exact ⟨Nat.le_trans hnumber (by decide), haccepted⟩

theorem canonicalValues (h : parts.Canonical) (kind : OptionKind) :
    kind.format.CanonicalValues (valuesOf parts.options kind) := by
  refine ⟨fun value hmem => ?_, h.once kind⟩
  obtain ⟨option, hoption, hnumber, rfl⟩ := mem_valuesOf.mp hmem
  obtain ⟨other, hother, hvalue⟩ := h.option option hoption
  rwa [OptionKind.number_injective (hother.trans hnumber)] at hvalue

/-- The message that canonical parts make is written with the same options. -/
theorem wireOptions_message (h : parts.Canonical) : parts.message.wireOptions = parts.options := by
  have hvalues : parts.message.values = valuesOf parts.options := by
    funext kind
    exact @Message.values_ofValues parts.opening rfl rfl _ kind (h.canonicalValues kind)
  apply eq_of_valuesOf_eq
  · exact parts.message.wireOptions_pairwise
  · exact numberedOptions_pairwise 0 parts.items
  · intro option hmem
    obtain ⟨kind, hkind, _⟩ := Message.mem_wireOptions.mp hmem
    exact ⟨kind, hkind⟩
  · intro option hmem
    obtain ⟨kind, hkind, _⟩ := h.option option hmem
    exact ⟨kind, hkind⟩
  · rw [Message.valuesOf_wireOptions, hvalues]

end MessageParts.Canonical

/-- Four bytes that hold a header are what a writer makes of it. -/
theorem MessageHeader.encode_eq_of_toNat {kind : MessageKind} {code : Code} {messageId : UInt16}
    {tokenLength : Nat} {first high low : UInt8} (htoken : tokenLength ≤ maxTokenLength)
    (hfirst : first.toNat = 64 + kind.bits * 16 + tokenLength)
    (hid : messageId.toNat = high.toNat * 256 + low.toNat) :
    (ofParts kind code messageId tokenLength).encode = [first, code.byte, high, low] := by
  have hlow := low.toNat_lt
  have hhighByte : UInt8.ofNat (messageId.toNat / 256) = high := by
    have hquotient : messageId.toNat / 256 = high.toNat := by omega
    rw [hquotient, UInt8.ofNat_toNat]
  have hlowByte : UInt8.ofNat messageId.toNat = low := by
    apply UInt8.toNat_inj.mp
    simp only [UInt8.toNat_ofNat']
    omega
  rw [encode_ofParts kind code messageId htoken, ← hfirst, UInt8.ofNat_toNat, hhighByte, hlowByte]

namespace Message

theorem canonicalTail_iff {message : Message} {tail : Bytes} :
    CanonicalTail message.payload tail ↔
      message.payload.length ≤ maxPayloadLength ∧ tail = message.payloadPart := by
  unfold payloadPart
  generalize message.payload = payload
  constructor
  · intro h
    cases h with
    | absent => exact ⟨Nat.zero_le _, rfl⟩
    | present hpos hle =>
      refine ⟨hle, ?_⟩
      rw [if_neg]
      · rfl
      · rw [List.isEmpty_iff_length_eq_zero]
        omega
  · rintro ⟨hle, rfl⟩
    cases payload with
    | nil => exact .absent
    | cons byte rest => exact .present (Nat.succ_pos _) hle

/-- Canonical bytes are what a writer makes of the message that their parts make. -/
theorem encode_message_of_canonicalForm {parts : MessageParts} {bytes : Bytes}
    (h : CanonicalForm parts bytes) : parts.message.encode = .ok bytes := by
  obtain @⟨first, high, low, row, tail, hfirst, htoken, hid, hrow, htail, hcanonical, hsize⟩ := h
  have hcode : parts.message.isEmpty = false := decide_eq_false hcanonical.code_ne
  have hpayload : parts.message.payload = parts.payload := List.take_of_length_le htail.length_le
  have hwritten : encodeOptions 0 parts.message.wireOptions = .ok row := by
    rw [hcanonical.wireOptions_message]
    exact encodeOptions_of_itemRow hrow hcanonical.no_block 0
  have hheader : (MessageHeader.ofParts parts.message.kind parts.message.code
      parts.message.messageId parts.message.token.length).encode
        = [first, parts.code.byte, high, low] :=
    MessageHeader.encode_eq_of_toNat htoken hfirst hid
  obtain ⟨_, rfl⟩ := canonicalTail_iff.mp (hpayload ▸ htail)
  refine (encodeWith_eq_ok_iff hcode).mpr ⟨row, hwritten, hsize, ?_⟩
  rw [hheader]
  simp only [blockPart, List.append_nil, List.append_assoc]
  rfl

/-- Bytes that spell canonical parts. -/
def Canonical (bytes : Bytes) : Prop := ∃ parts, CanonicalForm parts bytes

/-- The parts that a message without proxy options is written with are canonical. -/
theorem canonical_partsWith_none {message : Message} (hlimits : message.WithinLimits)
    (hcode : message.isEmpty = false) (huri : message.proxyUri = none)
    (hscheme : message.proxyScheme = none) : (message.partsWith none).Canonical := by
  have hvalues := canonicalValues_values hlimits huri hscheme
  have hitems : (message.partsWith none).items = itemsOf 0 message.wireOptions :=
    List.append_nil _
  refine ⟨of_decide_eq_false hcode, ?_, ?_, ?_⟩
  · rw [hitems, telemetryBlocks_itemsOf]
  · intro option hmem
    rw [options_partsWith] at hmem
    obtain ⟨kind, hkind, hvalue⟩ := mem_wireOptions.mp hmem
    exact ⟨kind, hkind, (hvalues kind).each option.value hvalue⟩
  · intro kind hrepeats
    rw [options_partsWith, valuesOf_wireOptions]
    exact (hvalues kind).once hrepeats

/-- What a writer makes of a message without proxy options is canonical. -/
theorem canonical_of_encode {message : Message} (hlimits : message.WithinLimits)
    (hcode : message.isEmpty = false) (huri : message.proxyUri = none)
    (hscheme : message.proxyScheme = none) {bytes : Bytes} (h : message.encode = .ok bytes) :
    Canonical bytes := by
  obtain ⟨first, high, low, row, hfirst, hid, hrow, hsize, rfl⟩ :=
    exists_bytes_of_encodeWith hlimits.token hcode h
  have hcanonical := canonical_partsWith_none hlimits hcode huri hscheme
  have hitems : ItemRow (message.partsWith none).items row := by
    have hall := hrow.append (message.itemRow_blockPart none)
    rwa [blockPart, List.append_nil] at hall
  have htail := canonicalTail_iff.mpr ⟨hlimits.payload, rfl⟩
  exact ⟨_, @CanonicalForm.mk (message.partsWith none) _ _ _ _ _ hfirst hlimits.token hid hitems
    htail hcanonical hsize⟩

/-- **The canonical wire format.** Canonical bytes are read, and writing the message gives them back;
and the bytes that a message without proxy options is written with are canonical, whatever program
has made the message. So the canonical bytes are exactly what a writer makes. -/
theorem canonical_wire_format :
    (∀ bytes, Canonical bytes → ∃ message, decode bytes = .ok message ∧ message.encode = .ok bytes) ∧
    ∀ (message : Message) (bytes : Bytes), message.Reachable → message.isEmpty = false →
      message.proxyUri = none → message.proxyScheme = none → message.encode = .ok bytes →
        Canonical bytes := by
  constructor
  · rintro bytes ⟨parts, hform⟩
    have hacceptable : parts.Acceptable := by
      obtain @⟨_, _, _, _, _, _, _, _, _, _, hcanonical, _⟩ := hform
      exact hcanonical.acceptable
    have hread := decodeWithTelemetry_of_acceptable hform.messageForm hacceptable
    exact ⟨parts.message, decode_eq_of_decodeWithTelemetry hread,
      encode_message_of_canonicalForm hform⟩
  · intro message bytes hreachable hcode huri hscheme h
    exact canonical_of_encode hreachable.withinLimits hcode huri hscheme h

/-- A request for the path `a/b`, with two bytes of payload. -/
def pathRequestParts : MessageParts where
  kind := .confirmable
  code := .get
  messageId := 7
  token := []
  items := [.option 11 [97], .option 0 [98]]
  payload := [1, 2]

theorem canonical_wire_format_request :
    Canonical [64, 1, 0, 7, 177, 97, 1, 98, 255, 1, 2] ∧
      (∃ message, decode [64, 1, 0, 7, 177, 97, 1, 98, 255, 1, 2] = .ok message ∧
        message.encode = .ok [64, 1, 0, 7, 177, 97, 1, 98, 255, 1, 2]) ∧
      ∃ message : Message, message.Reachable ∧ message.encode = .ok [64, 2, 0, 1, 255, 5] ∧
        Canonical [64, 2, 0, 1, 255, 5] := by
  have hrow : ItemRow pathRequestParts.items [177, 97, 1, 98] :=
    .cons (@Item.Form.option 177 [] [] [97] 11 (.short (by decide)) (.short (by decide)))
      (.cons (@Item.Form.option 1 [] [] [98] 0 (.short (by decide)) (.short (by decide))) .nil)
  have hsegment : ∀ text : String, '/' ∉ text.toList →
      OptionKind.uriPath.format.Canonical (Text.utf8 text) := fun text hfree => ⟨text, rfl, hfree⟩
  have hparts : pathRequestParts.Canonical := by
    refine ⟨by decide, rfl, ?_, ?_⟩
    · intro option hmem
      have hoptions : pathRequestParts.options = [⟨11, Text.utf8 "a"⟩, ⟨11, Text.utf8 "b"⟩] := by
        decide +kernel
      rw [hoptions] at hmem
      rcases List.mem_pair.mp hmem with rfl | rfl
      · exact ⟨.uriPath, rfl, hsegment "a" (by decide)⟩
      · exact ⟨.uriPath, rfl, hsegment "b" (by decide)⟩
    · intro kind hrepeats
      cases kind
      case locationPath | uriPath | uriQuery | locationQuery => cases hrepeats
      all_goals decide
  have hcanonical : Canonical [64, 1, 0, 7, 177, 97, 1, 98, 255, 1, 2] :=
    ⟨pathRequestParts, @CanonicalForm.mk pathRequestParts 64 0 7 [177, 97, 1, 98] [255, 1, 2] rfl
      (by decide) rfl hrow (.present (by decide) (by decide)) hparts (by decide)⟩
  let message : Message := { kind := .confirmable, code := .post, messageId := 1, payload := [5] }
  have hreachable : message.Reachable := .set (.payload [5]) (.bare .confirmable .post 1)
  have hencode : message.encode = .ok [64, 2, 0, 1, 255, 5] := by decide +kernel
  exact ⟨hcanonical, canonical_wire_format.1 _ hcanonical, message, hreachable, hencode,
    canonical_wire_format.2 message _ hreachable rfl rfl rfl hencode⟩

end Message

end MeshTelemetry
