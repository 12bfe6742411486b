import MeshTelemetry.Message.Decoding
import MeshTelemetry.Proofs.Message.HeaderForm

/-!
# The bytes of one item

An item is an option or a telemetry block, and its form says which bytes spell it without any reader
in sight. The reader of one item accepts exactly the bytes of that form and stops right behind them,
whatever follows. Everything said about rows of items rests on this one equivalence.
-/

namespace MeshTelemetry

/-- How the wire spells an item. -/
inductive Item.Form : Item → Bytes → Prop where
  | block {length : UInt8} {bytes : Bytes} :
      bytes.length = length.toNat → Form (.block bytes) (telemetryMarker :: length :: bytes)
  | option {first : UInt8} {deltaBytes lengthBytes value : Bytes} {delta : Nat} :
      Extended.Form (first.toNat / 16) deltaBytes delta →
      Extended.Form (first.toNat % 16) lengthBytes value.length →
      Form (.option delta value) (first :: (deltaBytes ++ lengthBytes ++ value))

theorem marksPayload_eq_false_iff {byte : UInt8} :
    marksPayload byte = false ↔ byte.toNat / 16 ≤ 14 ∨ byte = telemetryMarker := by
  have hlt := byte.toNat_lt
  have hle : (0xF0 : UInt8) ≤ byte ↔ 240 ≤ byte.toNat := UInt8.le_iff_toNat_le
  unfold marksPayload
  simp only [Bool.and_eq_false_iff, decide_eq_false_iff_not, hle, ne_eq, not_not]
  constructor
  · rintro (hbelow | hmarker)
    · exact .inl (by omega)
    · exact .inr hmarker
  · rintro (hnibble | hmarker)
    · exact .inl (by omega)
    · exact .inr hmarker

theorem Item.Form.head {item : Item} {bytes : Bytes} (h : item.Form bytes) :
    ∃ first rest, bytes = first :: rest ∧ marksPayload first = false := by
  cases h with
  | block _ => exact ⟨_, _, rfl, marksPayload_eq_false_iff.mpr (.inr rfl)⟩
  | option hdelta _ => exact ⟨_, _, rfl, marksPayload_eq_false_iff.mpr (.inl hdelta.nibble_le)⟩

/-- Behind the marker a block is read, and nothing else. -/
theorem readItem_block_eq_ok_iff {start : Nat} {cursor after : Cursor} {item : Item} :
    readItem telemetryMarker start cursor = .ok (item, after) ↔
      ∃ length bytes, item = .block bytes ∧ bytes.length = length.toNat ∧
        cursor.rest = length :: bytes ++ after.rest ∧
          after.offset = cursor.offset + 1 + bytes.length := by
  rw [readItem, if_pos rfl]
  constructor
  · intro h
    obtain ⟨⟨lengthByte, afterLength⟩, hlength, h⟩ := bind_eq_ok_iff.mp h
    obtain ⟨⟨bytes, afterBlock⟩, hblock, h⟩ := bind_eq_ok_iff.mp h
    cases h
    obtain ⟨hlengthRest, hone, hlengthOffset⟩ := Cursor.take_eq_ok_iff.mp hlength
    obtain ⟨hblockRest, hcount, hblockOffset⟩ := Cursor.take_eq_ok_iff.mp hblock
    obtain ⟨length, rfl⟩ := List.length_eq_one_iff.mp hone
    rw [natOfBytesBE_singleton] at hcount hblockOffset
    refine ⟨length, bytes, rfl, hcount, ?_, ?_⟩
    · rw [hlengthRest, hblockRest]
      rfl
    · rw [hblockOffset, hlengthOffset, hcount]
  · rintro ⟨length, bytes, rfl, hcount, hrest, hoffset⟩
    let afterLength : Cursor := ⟨cursor.offset + 1, bytes ++ after.rest⟩
    have hlength : cursor.take 1 .telemetryLength = .ok ([length], afterLength) :=
      Cursor.take_eq_ok_iff.mpr ⟨hrest, rfl, rfl⟩
    have hblock : afterLength.take (natOfBytesBE [length]) .telemetryBlock
        = .ok (bytes, after) := by
      rw [natOfBytesBE_singleton, ← hcount]
      exact Cursor.take_eq_ok_iff.mpr ⟨rfl, rfl, hoffset⟩
    exact bind_eq_ok_iff.mpr ⟨_, hlength, bind_eq_ok_iff.mpr ⟨_, hblock, rfl⟩⟩

/-- Any other byte begins an option's header, and the value follows the header. -/
theorem readItem_option_eq_ok_iff {first : UInt8} (hmarker : first ≠ telemetryMarker) {start : Nat}
    {cursor after : Cursor} {item : Item} :
    readItem first start cursor = .ok (item, after) ↔
      ∃ deltaBytes lengthBytes value delta, item = .option delta value ∧
        Extended.Form (first.toNat / 16) deltaBytes delta ∧
          Extended.Form (first.toNat % 16) lengthBytes value.length ∧
            cursor.rest = deltaBytes ++ lengthBytes ++ value ++ after.rest ∧
              after.offset = cursor.offset + deltaBytes.length + lengthBytes.length + value.length := by
  rw [readItem, if_neg hmarker]
  constructor
  · intro h
    obtain ⟨⟨header, afterHeader⟩, hheader, h⟩ := bind_eq_ok_iff.mp h
    obtain ⟨⟨value, afterValue⟩, hvalue, h⟩ := bind_eq_ok_iff.mp h
    cases h
    obtain ⟨deltaBytes, lengthBytes, hdelta, hlength, hheaderRest, hheaderOffset⟩ :=
      OptionHeader.read_eq_ok_iff.mp hheader
    obtain ⟨hvalueRest, hcount, hvalueOffset⟩ := Cursor.take_eq_ok_iff.mp hvalue
    refine ⟨deltaBytes, lengthBytes, value, header.delta, rfl, hdelta, hcount ▸ hlength, ?_, ?_⟩
    · simp only [hheaderRest, hvalueRest, List.append_assoc]
    · rw [hvalueOffset, hheaderOffset, hcount]
  · rintro ⟨deltaBytes, lengthBytes, value, delta, rfl, hdelta, hlength, hrest, hoffset⟩
    let afterHeader : Cursor :=
      ⟨cursor.offset + deltaBytes.length + lengthBytes.length, value ++ after.rest⟩
    have hheader : OptionHeader.read first start cursor
        = .ok (⟨delta, value.length⟩, afterHeader) := by
      refine OptionHeader.read_eq_ok_iff.mpr ⟨deltaBytes, lengthBytes, hdelta, hlength, ?_, rfl⟩
      rw [hrest, List.append_assoc]
    have hvalue : afterHeader.take value.length .optionValue = .ok (value, after) :=
      Cursor.take_eq_ok_iff.mpr ⟨rfl, rfl, hoffset⟩
    exact bind_eq_ok_iff.mpr ⟨_, hheader, bind_eq_ok_iff.mpr ⟨_, hvalue, rfl⟩⟩

/-- **One item.** The reader accepts the bytes that spell an item and no others, and stops right
behind them. A byte that ends the row is not an item's first, so it is left out. -/
theorem readItem_eq_ok_iff {first : UInt8} {start : Nat} {cursor after : Cursor} {item : Item} :
    readItem first start cursor = .ok (item, after) ↔
      ∃ consumed, item.Form (first :: consumed) ∧ cursor.rest = consumed ++ after.rest ∧
        after.offset = cursor.offset + consumed.length := by
  by_cases hmarker : first = telemetryMarker
  · subst hmarker
    rw [readItem_block_eq_ok_iff]
    constructor
    · rintro ⟨length, bytes, rfl, hcount, hrest, hoffset⟩
      refine ⟨length :: bytes, .block hcount, hrest, ?_⟩
      rw [hoffset, List.length_cons]
      omega
    · rintro ⟨consumed, hform, hrest, hoffset⟩
      cases hform with
      | @block length bytes hcount =>
        refine ⟨length, bytes, rfl, hcount, hrest, ?_⟩
        rw [hoffset, List.length_cons]
        omega
      -- The marker's high nibble is the reserved one, so no option begins with it.
      | option hdelta _ => exact absurd hdelta.nibble_le (by decide)
  · rw [readItem_option_eq_ok_iff hmarker]
    constructor
    · rintro ⟨deltaBytes, lengthBytes, value, delta, rfl, hdelta, hlength, hrest, hoffset⟩
      refine ⟨deltaBytes ++ lengthBytes ++ value, .option hdelta hlength, hrest, ?_⟩
      rw [hoffset, List.length_append, List.length_append]
      omega
    · rintro ⟨consumed, hform, hrest, hoffset⟩
      cases hform with
      | block _ => exact absurd rfl hmarker
      | @option _ deltaBytes lengthBytes value delta hdelta hlength =>
        refine ⟨deltaBytes, lengthBytes, value, delta, rfl, hdelta, hlength, hrest, ?_⟩
        rw [hoffset, List.length_append, List.length_append]
        omega

/-- The bytes of an option whose two numbers a header can hold spell that option. -/
theorem OptionHeader.bytes_form {delta : Nat} {value : Bytes} (hdelta : delta ≤ maxExtended)
    (hlength : value.length ≤ maxExtended) :
    (Item.option delta value).Form
      ((OptionHeader.bytes ⟨delta, value.length⟩) ++ value) := by
  have hfits : OptionHeader.Fits ⟨delta, value.length⟩ := ⟨hdelta, hlength⟩
  obtain ⟨hdeltaForm, hlengthForm⟩ := OptionHeader.form_iff_bytes.mpr ⟨hfits, rfl, rfl, rfl⟩
  exact Item.Form.option hdeltaForm hlengthForm

/-- So an option that is read is spelled as it would be written. -/
theorem Item.Form.eq_header_bytes {delta : Nat} {value bytes : Bytes}
    (h : (Item.option delta value).Form bytes) :
    value.length ≤ maxExtended ∧ bytes = OptionHeader.bytes ⟨delta, value.length⟩ ++ value := by
  cases h with
  | @option first deltaBytes lengthBytes _ _ hdelta hlength =>
    obtain ⟨hfits, _, _, hbytes⟩ :=
      @OptionHeader.form_iff_bytes ⟨delta, value.length⟩ .. |>.mp ⟨hdelta, hlength⟩
    refine ⟨hfits.length_le, ?_⟩
    rw [hbytes, List.cons_append]

end MeshTelemetry
