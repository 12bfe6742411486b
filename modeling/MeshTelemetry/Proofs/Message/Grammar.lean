import MeshTelemetry.Proofs.Message.ItemRow
import MeshTelemetry.Proofs.Message.OptionValues

/-!
# The grammar of messages

A message on the wire is a header of version 1, the token, a row of items, and the payload behind a
marker, or no payload at all. The grammar names the parts and says which bytes spell them. The reader
accepts exactly the bytes that spell parts whose options are all acceptable, and gives the message
that the parts make, so nothing bad is let in and nothing good is refused.
-/

namespace MeshTelemetry

/-- What a message consists of on the wire; the payload is all that follows its marker. -/
structure MessageParts where
  kind : MessageKind
  code : Code
  messageId : UInt16
  token : Bytes
  items : List Item
  payload : Bytes

namespace MessageParts

def options (parts : MessageParts) : List WireOption := numberedOptions 0 parts.items

/-- The message with header and token only. -/
def opening (parts : MessageParts) : Message where
  kind := parts.kind
  code := parts.code
  messageId := parts.messageId
  token := parts.token

def collected (parts : MessageParts) : Message := parts.opening.ofValues (valuesOf parts.options)

def message (parts : MessageParts) : Message :=
  { parts.collected with payload := parts.payload.take maxPayloadLength }

/-- The last telemetry block, if there is one. -/
def telemetry (parts : MessageParts) : Option Bytes := (telemetryBlocks parts.items).getLast?

/-- Every option has a number in range and is one that a receiver takes. -/
def Acceptable (parts : MessageParts) : Prop :=
  ∀ option ∈ parts.options, option.number ≤ maxOptionNumber ∧ option.Acceptable

end MessageParts

/-- How the wire spells the parts of a message. The first byte holds version 1 in its two high bits,
then the kind, then the length of the token. -/
inductive MessageForm : MessageParts → Bytes → Prop where
  | mk {parts : MessageParts} {first high low : UInt8} {row tail : Bytes} :
      first.toNat = 64 + parts.kind.bits * 16 + parts.token.length →
      parts.token.length ≤ 8 →
      parts.messageId.toNat = high.toNat * 256 + low.toNat →
      ItemRow parts.items row →
      PayloadForm parts.payload tail →
      MessageForm parts
        (first :: parts.code.byte :: high :: low :: (parts.token ++ (row ++ tail)))

theorem MessageKind.ofBits_add_bits (kind : MessageKind) : ofBits (4 + kind.bits) = kind := by
  cases kind <;> rfl

theorem MessageKind.bits_ofBits (bits : Nat) : (ofBits bits).bits = bits % 4 := by
  have hcases : bits % 4 = 0 ∨ bits % 4 = 1 ∨ bits % 4 = 2 ∨ bits % 4 = 3 := by omega
  rcases hcases with h | h | h | h <;> simp [ofBits, MessageKind.bits, h]

theorem messageId_toNat (high low : UInt8) :
    (UInt16.ofNat (natOfBytesBE [high, low])).toNat = high.toNat * 256 + low.toNat := by
  have hhigh := high.toNat_lt
  have hlow := low.toNat_lt
  rw [natOfBytesBE_pair, UInt16.toNat_ofNat_of_lt' (by simp only [UInt16.size]; omega)]

def headerOfBytes (first code high low : UInt8) : MessageHeader where
  version := first.toNat / 64
  kind := MessageKind.ofBits (first.toNat / 16)
  tokenLength := first.toNat % 16
  code := ⟨code⟩
  messageId := UInt16.ofNat (natOfBytesBE [high, low])

theorem MessageHeader.decode_eq_ok_iff {bytes : Bytes} {header : MessageHeader} :
    MessageHeader.decode bytes = .ok header ↔
      ∃ first code high low rest, bytes = first :: code :: high :: low :: rest ∧
        first.toNat / 64 = 1 ∧ first.toNat % 16 ≤ 8 ∧
          header = headerOfBytes first code high low := by
  constructor
  · intro h
    match bytes with
    | first :: code :: high :: low :: rest =>
      obtain ⟨_, hvalid, h⟩ := bind_eq_ok_iff.mp h
      cases h
      unfold validate at hvalid
      split at hvalid
      · cases hvalid
      · rename_i hversion
        split at hvalid
        · cases hvalid
        · rename_i htoken
          simp only [protocolVersion, maxTokenLength, not_not] at hversion htoken
          exact ⟨first, code, high, low, rest, rfl, hversion, by omega, rfl⟩
    | [] | [_] | [_, _] | [_, _, _] => cases h
  · rintro ⟨first, code, high, low, rest, rfl, hversion, htoken, rfl⟩
    refine bind_eq_ok_iff.mpr ⟨(), ?_, rfl⟩
    simp [validate, protocolVersion, maxTokenLength, hversion, Nat.not_lt.mpr htoken]

/-- The header that goes with the parts. -/
def MessageParts.header (parts : MessageParts) : MessageHeader where
  version := protocolVersion
  kind := parts.kind
  tokenLength := parts.token.length
  code := parts.code
  messageId := parts.messageId

/-- The form as a reader meets it: four bytes that hold the header, and what follows them. -/
theorem messageForm_iff {parts : MessageParts} {bytes : Bytes} :
    MessageForm parts bytes ↔
      parts.token.length ≤ maxTokenLength ∧ ∃ first code high low row tail,
        bytes = first :: code :: high :: low :: (parts.token ++ (row ++ tail)) ∧
          headerOfBytes first code high low = parts.header ∧
            ItemRow parts.items row ∧ PayloadForm parts.payload tail := by
  constructor
  · intro hform
    obtain @⟨first, high, low, row, tail, hfirst, htoken, hid, hrow, htail⟩ := hform
    have hbits := parts.kind.bits_lt
    have hversion : first.toNat / 64 = protocolVersion := by
      unfold protocolVersion
      omega
    have hkind : MessageKind.ofBits (first.toNat / 16) = parts.kind := by
      rw [show first.toNat / 16 = 4 + parts.kind.bits by omega, MessageKind.ofBits_add_bits]
    have hlength : first.toNat % 16 = parts.token.length := by omega
    have hid' : UInt16.ofNat (natOfBytesBE [high, low]) = parts.messageId := by
      apply UInt16.toNat_inj.mp
      rw [messageId_toNat, hid]
    have hheader : headerOfBytes first parts.code.byte high low = parts.header := by
      simp only [headerOfBytes, MessageParts.header, hversion, hkind, hlength, hid']
    exact ⟨htoken, first, parts.code.byte, high, low, row, tail, rfl, hheader, hrow, htail⟩
  · rintro ⟨htoken, first, code, high, low, row, tail, rfl, hheader, hrow, htail⟩
    obtain ⟨kind, _, messageId, token, items, payload⟩ := parts
    simp only [headerOfBytes, MessageParts.header, protocolVersion, MessageHeader.mk.injEq]
      at hheader
    obtain ⟨hversion, rfl, hlength, rfl, rfl⟩ := hheader
    have hbits := MessageKind.bits_ofBits (first.toNat / 16)
    refine .mk ?_ htoken (messageId_toNat high low) hrow htail
    simp only [hbits]
    omega

namespace Message

theorem opening_ofValues_nil (parts : MessageParts) :
    parts.opening.ofValues (valuesOf []) = parts.opening := rfl

theorem foldlM_absorb_options_iff {parts : MessageParts} {message : Message} :
    parts.options.foldlM absorb parts.opening = .ok message ↔
      (∀ option ∈ parts.options, option.Acceptable) ∧ message = parts.collected :=
  foldlM_absorb_eq_ok_iff (opening_ofValues_nil parts)

/-- The reader takes header and token, and reads the items into the message that has these. -/
theorem decodeWithTelemetry_header_token {parts : MessageParts} {first code high low : UInt8}
    (htoken : parts.token.length ≤ maxTokenLength)
    (hheader : headerOfBytes first code high low = parts.header) (rest : Bytes) :
    decodeWithTelemetry (first :: code :: high :: low :: (parts.token ++ rest))
      = readItems { message := parts.opening } (headerSize + parts.token.length) rest >>=
        fun final => .ok (final.message, final.telemetry) := by
  have hversion : first.toNat / 64 = 1 := congrArg MessageHeader.version hheader
  have hlength : first.toNat % 16 = parts.token.length :=
    congrArg MessageHeader.tokenLength hheader
  have hdecode : MessageHeader.decode (first :: code :: high :: low :: (parts.token ++ rest))
      = .ok parts.header :=
    MessageHeader.decode_eq_ok_iff.mpr
      ⟨first, code, high, low, _, rfl, hversion, hlength ▸ htoken, hheader.symm⟩
  have htake : Cursor.take ⟨headerSize, parts.token ++ rest⟩ parts.token.length .token
      = .ok (parts.token, ⟨headerSize + parts.token.length, rest⟩) :=
    Cursor.take_eq_ok_iff.mpr ⟨rfl, rfl, rfl⟩
  rw [decodeWithTelemetry, hdecode, ok_bind]
  simp only [headerSize, List.drop_succ_cons, List.drop_zero, MessageParts.header] at htake ⊢
  rw [htake, ok_bind]
  rfl

/-- What the reader makes of bytes that spell parts: the options are absorbed into the message with
header and token, and if that goes well, the payload is added. -/
theorem decodeWithTelemetry_of_form {parts : MessageParts} {bytes : Bytes}
    (hform : MessageForm parts bytes)
    (hnumbers : ∀ option ∈ parts.options, option.number ≤ maxOptionNumber) :
    decodeWithTelemetry bytes
      = parts.options.foldlM absorb parts.opening >>= fun _ => .ok (parts.message, parts.telemetry) := by
  obtain ⟨htoken, first, code, high, low, row, tail, rfl, hheader, hrow, htail⟩ :=
    messageForm_iff.mp hform
  let start : Reading := { message := parts.opening }
  have hwalk : readItems start (headerSize + parts.token.length) (row ++ tail)
      = parts.options.foldlM absorb parts.opening >>= fun message =>
        readItems (start.behind parts.items message)
          (headerSize + parts.token.length + row.length) tail :=
    @readItems_row _ _ hrow start hnumbers _ tail
  rw [decodeWithTelemetry_header_token htoken hheader, hwalk]
  cases hfold : parts.options.foldlM absorb parts.opening with
  | error err => rfl
  | ok collected =>
    -- The options leave the payload alone, so there is none before the payload is read.
    obtain ⟨_, rfl⟩ := foldlM_absorb_options_iff.mp hfold
    have hempty : (start.behind parts.items parts.collected).message.payload = [] := rfl
    rw [ok_bind, readItems_payload htail hempty, ok_bind, ok_bind]
    simp only [Reading.finish, Reading.behind, MessageParts.message, MessageParts.telemetry, start,
      Option.or_none]

/-- The bytes of acceptable parts are read, and give the message that the parts make. -/
theorem decodeWithTelemetry_of_acceptable {parts : MessageParts} {bytes : Bytes}
    (hform : MessageForm parts bytes) (hacceptable : parts.Acceptable) :
    decodeWithTelemetry bytes = .ok (parts.message, parts.telemetry) := by
  have hfold : parts.options.foldlM absorb parts.opening = .ok parts.collected :=
    foldlM_absorb_options_iff.mpr ⟨fun option hmem => (hacceptable option hmem).2, rfl⟩
  rw [decodeWithTelemetry_of_form hform fun option hmem => (hacceptable option hmem).1, hfold,
    ok_bind]

/-- A header and a token that are taken are those of some parts. -/
theorem exists_parts_of_header_token {bytes token : Bytes} {header : MessageHeader} {after : Cursor}
    (hheader : MessageHeader.decode bytes = .ok header)
    (htake : Cursor.take ⟨headerSize, bytes.drop headerSize⟩ header.tokenLength .token
      = .ok (token, after)) :
    ∃ parts : MessageParts, ∃ first code high low,
      parts.token.length ≤ maxTokenLength ∧ headerOfBytes first code high low = parts.header ∧
        bytes = first :: code :: high :: low :: (parts.token ++ after.rest) := by
  obtain ⟨first, code, high, low, rest, rfl, hversion, htoken, rfl⟩ :=
    MessageHeader.decode_eq_ok_iff.mp hheader
  obtain ⟨hrest, hlength, _⟩ := Cursor.take_eq_ok_iff.mp htake
  simp only [headerSize, List.drop_succ_cons, List.drop_zero, headerOfBytes] at hrest hlength
  let parts : MessageParts :=
    { kind := MessageKind.ofBits (first.toNat / 16)
      code := ⟨code⟩
      messageId := UInt16.ofNat (natOfBytesBE [high, low])
      token := token
      items := []
      payload := [] }
  refine ⟨parts, first, code, high, low, ?_, ?_, by rw [hrest]⟩
  · simp only [parts, hlength]
    exact htoken
  · simp only [headerOfBytes, MessageParts.header, parts, protocolVersion, hversion, hlength]

/-- Bytes that are read begin with a header and its token. -/
theorem exists_header_of_decodeWithTelemetry {bytes : Bytes} {message : Message}
    {telemetry : Option Bytes} (h : decodeWithTelemetry bytes = .ok (message, telemetry)) :
    ∃ parts : MessageParts, ∃ first code high low rest,
      parts.token.length ≤ maxTokenLength ∧ headerOfBytes first code high low = parts.header ∧
        bytes = first :: code :: high :: low :: (parts.token ++ rest) := by
  obtain ⟨header, hheader, h⟩ := bind_eq_ok_iff.mp h
  obtain ⟨⟨token, after⟩, htake, _⟩ := bind_eq_ok_iff.mp h
  obtain ⟨parts, first, code, high, low, hparts⟩ := exists_parts_of_header_token hheader htake
  exact ⟨parts, first, code, high, low, after.rest, hparts⟩

/-- Bytes that are read spell acceptable parts. -/
theorem exists_form_of_decodeWithTelemetry {bytes : Bytes} {message : Message}
    {telemetry : Option Bytes} (h : decodeWithTelemetry bytes = .ok (message, telemetry)) :
    ∃ parts, MessageForm parts bytes ∧ parts.Acceptable ∧ message = parts.message ∧
      telemetry = parts.telemetry := by
  obtain ⟨opened, first, code, high, low, rest, htoken, hheader, rfl⟩ :=
    exists_header_of_decodeWithTelemetry h
  rw [decodeWithTelemetry_header_token htoken hheader] at h
  obtain ⟨final, hread, h⟩ := bind_eq_ok_iff.mp h
  cases h
  obtain ⟨items, row, collected, hrow, ⟨hnumbers, hfold⟩, hend⟩ := readItems_eq_ok_iff.mp hread
  let parts (payload : Bytes) : MessageParts := { opened with items := items, payload := payload }
  obtain ⟨hacceptable, hcollected⟩ := (@foldlM_absorb_options_iff (parts []) collected).mp hfold
  have hparts : ∀ payload, (parts payload).Acceptable :=
    fun _ option hmem => ⟨hnumbers option hmem, hacceptable option hmem⟩
  have hform : ∀ payload tail, PayloadForm payload tail →
      MessageForm (parts payload) (first :: code :: high :: low :: (opened.token ++ (row ++ tail))) :=
    fun payload tail htail =>
      messageForm_iff.mpr ⟨htoken, first, code, high, low, row, tail, rfl, hheader, hrow, htail⟩
  -- A row that the input ends with and a row that a payload follows both spell parts.
  rcases hend with ⟨rfl, rfl⟩ | ⟨marker, payload, rfl, hmarks, rfl⟩
  · refine ⟨parts [], ?_, hparts [], hcollected, Option.or_none⟩
    simpa using hform [] [] .absent
  · obtain ⟨hmarker, hnot⟩ := marksPayload_iff.mp hmarks
    refine ⟨parts payload, hform payload _ (.present hmarker hnot), hparts payload, ?_,
      Option.or_none⟩
    rw [hcollected]
    rfl

/-- **The reader accepts exactly the grammar.** Bytes are read if they spell acceptable parts, and
only then. The message is the fold of the options over the header and the token, which has a closed
form in the values of each option, with the first 64 bytes behind the marker as its payload; the
telemetry is the last block of the row. -/
theorem decodeWithTelemetry_eq_ok_iff {bytes : Bytes} {message : Message}
    {telemetry : Option Bytes} :
    decodeWithTelemetry bytes = .ok (message, telemetry) ↔
      ∃ parts : MessageParts, MessageForm parts bytes ∧ parts.Acceptable ∧
        parts.options.foldlM absorb parts.opening = .ok parts.collected ∧
          message = parts.message ∧ telemetry = parts.telemetry := by
  constructor
  · intro h
    obtain ⟨parts, hform, hacceptable, hmessage, htelemetry⟩ := exists_form_of_decodeWithTelemetry h
    have hfold : parts.options.foldlM absorb parts.opening = .ok parts.collected :=
      foldlM_absorb_options_iff.mpr ⟨fun option hmem => (hacceptable option hmem).2, rfl⟩
    exact ⟨parts, hform, hacceptable, hfold, hmessage, htelemetry⟩
  · rintro ⟨parts, hform, hacceptable, _, rfl, rfl⟩
    exact decodeWithTelemetry_of_acceptable hform hacceptable

end Message

end MeshTelemetry
