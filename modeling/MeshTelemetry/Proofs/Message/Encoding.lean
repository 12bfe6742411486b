import MeshTelemetry.Proofs.Message.OptionRow
import MeshTelemetry.Proofs.Message.Reachable

/-!
# What the writer spells

The writer's output is spelled by parts that can be read off the message: its options in ascending
order, then the block it took, then its payload. Through the grammar this says at once what a reader
makes of the output: everything comes back, unless a proxy option is among the options, which the
reader refuses when it gets there.
-/

namespace MeshTelemetry

namespace Block

theorem ofValue_toValue (block : Block) : ofValue block.toValue = block := by
  obtain ⟨⟨number, hnumber⟩, more, ⟨exponent, hexponent⟩⟩ := block
  have hvalue : (toValue ⟨⟨number, hnumber⟩, more, ⟨exponent, hexponent⟩⟩).toNat
      = number * 16 + (if more then 8 else 0) + exponent := by
    refine UInt32.toNat_ofNat_of_lt' ?_
    simp only [UInt32.size]
    cases more <;> simp <;> omega
  simp only [ofValue, hvalue, Block.mk.injEq, Fin.mk.injEq]
  cases more <;> simp <;> omega

end Block

theorem MessageHeader.encode_ofParts (kind : MessageKind) (code : Code) (messageId : UInt16)
    {tokenLength : Nat} (hlength : tokenLength ≤ maxTokenLength) :
    (ofParts kind code messageId tokenLength).encode
      = [UInt8.ofNat (64 + kind.bits * 16 + tokenLength), code.byte,
        UInt8.ofNat (messageId.toNat / 256), UInt8.ofNat messageId.toNat] := by
  unfold maxTokenLength at hlength
  have hcapped : min tokenLength maxTokenLength % 16 = tokenLength := by
    simp only [maxTokenLength]
    omega
  simp only [encode, ofParts, protocolVersion, hcapped, bytesBE_two]

theorem toNat_bytes_of_uint16 (value : UInt16) :
    value.toNat = (UInt8.ofNat (value.toNat / 256)).toNat * 256
      + (UInt8.ofNat value.toNat).toNat := by
  have hlt := value.toNat_lt
  have hhigh : (UInt8.ofNat (value.toNat / 256)).toNat = value.toNat / 256 := by
    rw [UInt8.toNat_ofNat_of_lt' (by simp only [UInt8.size]; omega)]
  have hlow : (UInt8.ofNat value.toNat).toNat = value.toNat % 256 := by simp
  rw [hhigh, hlow]
  omega

theorem getLast?_toList_map {α β : Type} {write : α → β} {read : β → α}
    (hread : ∀ value, read (write value) = value) (stored : Option α) :
    (stored.toList.map write).getLast?.map read = stored := by
  cases stored with
  | none => rfl
  | some value => simp [hread]

namespace Message

/-- What a message holds for its single-valued options is a last value. -/
theorem getLast?_toList_take {limit : Nat} {tag : Option Bytes}
    (hlimit : ∀ bytes ∈ tag, bytes.length ≤ limit) :
    tag.toList.getLast?.map (·.take limit) = tag := by
  cases tag with
  | none => rfl
  | some bytes =>
    have hle := hlimit bytes rfl
    simp [List.take_of_length_le hle]

theorem joinParts_partValues (separator : Char) (text : Option String) :
    joinParts separator (partValues separator text) = text := by
  cases text with
  | none => rfl
  | some text =>
    have hparts := Text.split_ne_nil separator text
    have hmapped : ((Text.split separator text).map Text.utf8).map partText
        = Text.split separator text := by
      rw [List.map_map]
      exact List.map_id'' partText_utf8 _
    simp only [partValues, Option.toList_some, List.flatMap_cons, List.flatMap_nil,
      List.append_nil, joinParts, List.map_eq_nil_iff, if_neg hparts, hmapped, Text.join_split]

/-- The message without its options and its payload. -/
def opening (message : Message) : Message where
  kind := message.kind
  code := message.code
  messageId := message.messageId
  token := message.token

/-- The values of a message make its options again, proxy options apart. -/
theorem opening_ofValues_values {message : Message} (hlimits : message.WithinLimits)
    (huri : message.proxyUri = none) (hscheme : message.proxyScheme = none) :
    message.opening.ofValues message.values = { message with payload := [] } := by
  have huint : ∀ value : UInt32, uintOf (encodeUint value) = value := fun value => by
    rw [← decodeUint_eq_uintOf, decodeUint_encodeUint]
  have huint16 : ∀ value : UInt16, uint16Of (encodeUint value.toUInt32) = value := fun value => by
    rw [← decodeUint16_eq_uint16Of, decodeUint16_encodeUint]
  have hblock : ∀ block : Block, (Block.ofValue ∘ uintOf) (encodeUint block.toValue) = block :=
    fun block => by rw [Function.comp_apply, huint, Block.ofValue_toValue]
  have hflag : (!(message.values .ifNoneMatch).isEmpty) = message.ifNoneMatch := by
    cases hvalue : message.ifNoneMatch <;> simp [values, hvalue]
  simp only [ofValues, opening, hflag]
  simp only [values, getLast?_toList_take hlimits.ifMatch, getLast?_toList_take hlimits.etag,
    getLast?_toList_map partText_utf8, getLast?_toList_map huint, getLast?_toList_map huint16,
    getLast?_toList_map hblock, joinParts_partValues, huri, hscheme]

/-- The block that goes out, of the one that is offered. -/
def sentBlock (message : Message) (block : Option Bytes) : Option Bytes :=
  block.filter message.takesBlock

def partsWith (message : Message) (block : Option Bytes) : MessageParts where
  kind := message.kind
  code := message.code
  messageId := message.messageId
  token := message.token
  items := itemsOf 0 message.wireOptions ++ (message.sentBlock block).toList.map Item.block
  payload := message.payload

theorem options_partsWith (message : Message) (block : Option Bytes) :
    (message.partsWith block).options = message.wireOptions := by
  have hoptions : numberedOptions 0 (itemsOf 0 message.wireOptions) = message.wireOptions :=
    numberedOptions_itemsOf (fun _ _ => Nat.zero_le _) message.wireOptions_pairwise
  unfold MessageParts.options partsWith
  cases message.sentBlock block with
  | none => simpa using hoptions
  | some bytes =>
    rw [Option.toList_some, List.map_cons, List.map_nil, numberedOptions_append_block, hoptions]

theorem telemetry_partsWith (message : Message) (block : Option Bytes) :
    (message.partsWith block).telemetry = message.sentBlock block := by
  have hnone := telemetryBlocks_itemsOf 0 message.wireOptions
  unfold telemetryBlocks at hnone
  unfold MessageParts.telemetry partsWith telemetryBlocks
  rw [List.filterMap_append, hnone]
  cases message.sentBlock block <;> simp [Item.block?]

/-- A receiver takes every option of a message without proxy options. -/
theorem acceptable_partsWith {message : Message} (huri : message.proxyUri = none)
    (hscheme : message.proxyScheme = none) (block : Option Bytes) :
    (message.partsWith block).Acceptable := by
  intro option hmem
  rw [options_partsWith] at hmem
  refine ⟨Nat.le_trans (number_le_of_mem_wireOptions hmem) (by decide), ?_⟩
  obtain ⟨kind, hkind, hvalue⟩ := mem_wireOptions.mp hmem
  have hproxy : kind.isProxy = false := by
    cases kind
    case proxyUri => simp [values, huri] at hvalue
    case proxyScheme => simp [values, hscheme] at hvalue
    all_goals rfl
  have haccepted := acceptable_of_mem_values hproxy hvalue
  rwa [hkind] at haccepted

theorem message_partsWith {message : Message} (hlimits : message.WithinLimits)
    (huri : message.proxyUri = none) (hscheme : message.proxyScheme = none)
    (block : Option Bytes) : (message.partsWith block).message = message := by
  have hcollected : (message.partsWith block).collected = { message with payload := [] } := by
    rw [MessageParts.collected, options_partsWith, valuesOf_wireOptions]
    exact opening_ofValues_values hlimits huri hscheme
  rw [MessageParts.message, hcollected]
  simp only [partsWith, List.take_of_length_le hlimits.payload]

theorem takesBlock_iff {message : Message} {bytes : Bytes} :
    message.takesBlock bytes = true ↔ bytes.length ≤ message.telemetryRoom := decide_eq_true_iff

theorem telemetryRoom_le (message : Message) : message.telemetryRoom ≤ 255 := by
  unfold telemetryRoom
  split <;> omega

theorem sentBlock_some {message : Message} {bytes : Bytes} :
    message.sentBlock (some bytes) = if message.takesBlock bytes then some bytes else none := rfl

theorem itemRow_blockPart (message : Message) (block : Option Bytes) :
    ItemRow ((message.sentBlock block).toList.map Item.block) (message.blockPart block) := by
  cases block with
  | none => exact .nil
  | some bytes =>
    by_cases htakes : message.takesBlock bytes
    · have hroom : bytes.length ≤ 255 :=
        Nat.le_trans (takesBlock_iff.mp htakes) message.telemetryRoom_le
      have hlength : bytes.length = (UInt8.ofNat bytes.length).toNat := by
        rw [UInt8.toNat_ofNat_of_lt' (by simp only [UInt8.size]; omega)]
      have hrow := ItemRow.cons (Item.Form.block hlength) .nil
      simpa [sentBlock_some, blockPart, htakes] using hrow
    · simp only [sentBlock_some, blockPart, if_neg htakes]
      exact .nil

theorem payloadForm_payloadPart (message : Message) :
    PayloadForm message.payload message.payloadPart := by
  unfold payloadPart
  cases message.payload with
  | nil => exact .absent
  | cons byte rest => exact .present (by decide) (by decide)

theorem encodeWith_of_isEmpty {message : Message} (hempty : message.isEmpty = true)
    (block : Option Bytes) :
    message.encodeWith block = .ok [UInt8.ofNat (64 + message.kind.bits * 16), 0,
      UInt8.ofNat (message.messageId.toNat / 256), UInt8.ofNat message.messageId.toNat] := by
  have hcode : message.code = Code.empty := by simpa [isEmpty, Code.isEmpty] using hempty
  rw [encodeWith, if_pos hempty, MessageHeader.encode_ofParts _ _ _ (Nat.zero_le _), hcode]
  rfl

/-- A message with a code is written if its options can be and its head is not too large. -/
theorem encodeWith_eq_ok_iff {message : Message} (hcode : message.isEmpty = false)
    {block : Option Bytes} {bytes : Bytes} :
    message.encodeWith block = .ok bytes ↔
      ∃ row, encodeOptions 0 message.wireOptions = .ok row ∧
        headerSize + message.token.length + row.length ≤ maxHeaderSize ∧
          bytes = (MessageHeader.ofParts message.kind message.code message.messageId
            message.token.length).encode ++ message.token ++ row ++ message.blockPart block
              ++ message.payloadPart := by
  have hheader : (MessageHeader.ofParts message.kind message.code message.messageId
      message.token.length).encode.length = headerSize := by
    simp [MessageHeader.encode, bytesBE_length, headerSize]
  rw [encodeWith, if_neg (by simp [hcode])]
  simp only [bind_eq_ok_iff, List.length_append, hheader]
  constructor
  · rintro ⟨row, hrow, h⟩
    split at h
    · cases h
    · rename_i hsize
      cases h
      exact ⟨row, hrow, by omega, rfl⟩
  · rintro ⟨row, hrow, hsize, rfl⟩
    refine ⟨row, hrow, ?_⟩
    rw [if_neg (by omega)]

/-- The bytes that are written: the header, the token, the row of options, the block and the
payload. -/
theorem exists_bytes_of_encodeWith {message : Message}
    (htoken : message.token.length ≤ maxTokenLength) (hcode : message.isEmpty = false)
    {block : Option Bytes} {bytes : Bytes} (h : message.encodeWith block = .ok bytes) :
    ∃ first high low row,
      first.toNat = 64 + message.kind.bits * 16 + message.token.length ∧
        message.messageId.toNat = high.toNat * 256 + low.toNat ∧
          ItemRow (itemsOf 0 message.wireOptions) row ∧
            headerSize + message.token.length + row.length ≤ maxHeaderSize ∧
              bytes = first :: message.code.byte :: high :: low ::
                (message.token ++ (row ++ (message.blockPart block ++ message.payloadPart))) := by
  obtain ⟨row, hrow, hsize, rfl⟩ := (encodeWith_eq_ok_iff hcode).mp h
  have hnumbers : ∀ option ∈ message.wireOptions, option.number ≤ maxExtended := fun option hmem =>
    Nat.le_trans (number_le_of_mem_wireOptions hmem) (by decide)
  have hkind := message.kind.bits_lt
  have hfirst : (UInt8.ofNat (64 + message.kind.bits * 16 + message.token.length)).toNat
      = 64 + message.kind.bits * 16 + message.token.length := by
    unfold maxTokenLength at htoken
    rw [UInt8.toNat_ofNat_of_lt' (by simp only [UInt8.size]; omega)]
  refine ⟨_, _, _, row, hfirst, toNat_bytes_of_uint16 message.messageId,
    itemRow_of_encodeOptions hnumbers hrow, hsize, ?_⟩
  rw [MessageHeader.encode_ofParts _ _ _ htoken]
  simp only [List.cons_append, List.nil_append, List.append_assoc]

/-- What is written spells the parts of the message. -/
theorem messageForm_of_encodeWith {message : Message} (htoken : message.token.length ≤ maxTokenLength)
    (hcode : message.isEmpty = false) {block : Option Bytes} {bytes : Bytes}
    (h : message.encodeWith block = .ok bytes) : MessageForm (message.partsWith block) bytes := by
  obtain ⟨first, high, low, row, hfirst, hid, hrow, _, rfl⟩ :=
    exists_bytes_of_encodeWith htoken hcode h
  have hitems := hrow.append (message.itemRow_blockPart block)
  rw [← List.append_assoc row]
  exact @MessageForm.mk (message.partsWith block) _ _ _ _ _ hfirst htoken hid hitems
    message.payloadForm_payloadPart

/-- **Reading what was written.** The message comes back whole, and with it the block that went
out. -/
theorem decodeWithTelemetry_encodeWith {message : Message} (hlimits : message.WithinLimits)
    (hcode : message.isEmpty = false) (huri : message.proxyUri = none)
    (hscheme : message.proxyScheme = none) {block : Option Bytes} {bytes : Bytes}
    (h : message.encodeWith block = .ok bytes) :
    decodeWithTelemetry bytes = .ok (message, message.sentBlock block) := by
  rw [decodeWithTelemetry_of_acceptable (messageForm_of_encodeWith hlimits.token hcode h)
    (acceptable_partsWith huri hscheme block), message_partsWith hlimits huri hscheme,
    telemetry_partsWith]

end Message

end MeshTelemetry
