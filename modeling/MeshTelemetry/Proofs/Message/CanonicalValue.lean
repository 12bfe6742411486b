import MeshTelemetry.Proofs.Message.Encoding

/-!
# Values as a writer makes them

A reader takes more values than a writer makes: zeros in front of an integer, a separator within a
part, a tag that has to be cut, a flag with a value, a single-valued option twice. The canonical
values leave out just these. Reading such values into a message and taking them out again gives them
back, and what a message holds is of no other sort.
-/

namespace MeshTelemetry

inductive ValueFormat where
  | tag
  | flag
  /-- A big-endian number of at most so many bytes. -/
  | uint (width : Nat)
  | text
  /-- One part of a text that is joined with the separator. -/
  | part (separator : Char)
  /-- For proxies only, so that a receiver refuses it. -/
  | proxy

def OptionKind.format : OptionKind → ValueFormat
  | .ifMatch | .etag => .tag
  | .ifNoneMatch => .flag
  | .observe | .maxAge | .block2 | .block1 | .size2 | .size1 => .uint 4
  | .uriPort | .contentFormat | .accept => .uint 2
  | .uriHost => .text
  | .locationPath | .uriPath => .part '/'
  | .uriQuery | .locationQuery => .part '&'
  | .proxyUri | .proxyScheme => .proxy

namespace ValueFormat

/-- The values of the format that a writer makes. -/
def Canonical : ValueFormat → Bytes → Prop
  | .tag, value => value.length ≤ maxTagLength
  | .flag, value => value = []
  | .uint width, value => value.length ≤ width ∧ value.head? ≠ some 0
  | .text, value => ∃ text, Text.utf8 text = value
  | .part separator, value => ∃ text, Text.utf8 text = value ∧ separator ∉ text.toList
  | .proxy, _ => False

/-- Whether an option of the format can have several values. -/
def repeats : ValueFormat → Bool
  | .part _ => true
  | .tag | .flag | .uint _ | .text | .proxy => false

/-- The values that one message can have for an option of the format. -/
structure CanonicalValues (format : ValueFormat) (values : List Bytes) : Prop where
  each : ∀ value ∈ values, format.Canonical value
  once : format.repeats = false → values.length ≤ 1

theorem canonicalValues_nil (format : ValueFormat) : format.CanonicalValues [] :=
  ⟨fun _ hmem => (nomatch hmem), fun _ => Nat.zero_le 1⟩

theorem canonicalValues_singleton {format : ValueFormat} {value : Bytes}
    (h : format.Canonical value) : format.CanonicalValues [value] :=
  ⟨List.forall_mem_singleton.mpr h, fun _ => Nat.le_refl 1⟩

theorem canonicalValues_flag (present : Bool) :
    flag.CanonicalValues (if present then [[]] else []) := by
  cases present with
  | false => exact canonicalValues_nil flag
  | true => exact canonicalValues_singleton rfl

theorem canonicalValues_toList_map {α : Type} {format : ValueFormat} {write : α → Bytes}
    {stored : Option α} (h : ∀ value ∈ stored, format.Canonical (write value)) :
    format.CanonicalValues (stored.toList.map write) := by
  cases stored with
  | none => exact canonicalValues_nil format
  | some value => exact canonicalValues_singleton (h value rfl)

theorem canonicalValues_partValues (separator : Char) (text : Option String) :
    (ValueFormat.part separator).CanonicalValues (Message.partValues separator text) := by
  refine ⟨fun value hmem => ?_, fun hrepeats => (nomatch hrepeats)⟩
  obtain ⟨joined, _, hvalue⟩ := List.mem_flatMap.mp hmem
  obtain ⟨part, hpart, rfl⟩ := List.mem_map.mp hvalue
  exact ⟨part, rfl, Text.not_mem_of_mem_split hpart⟩

end ValueFormat

theorem canonical_encodeUint (value : UInt32) :
    (ValueFormat.uint 4).Canonical (encodeUint value) :=
  ⟨encodeUint_length_le value, encodeUint_head?_ne_zero value⟩

theorem canonical_encodeUint16 (value : UInt16) :
    (ValueFormat.uint 2).Canonical (encodeUint value.toUInt32) :=
  ⟨encodeUint_length_le_two value, encodeUint_head?_ne_zero _⟩

/-- An integer without zeros in front is written as it was read. -/
theorem encodeUint_uintOf {value : Bytes} (h : (ValueFormat.uint 4).Canonical value) :
    encodeUint (uintOf value) = value :=
  encodeUint_natOfBytesBE h.1 h.2

theorem encodeUint_uint16Of {value : Bytes} (h : (ValueFormat.uint 2).Canonical value) :
    encodeUint (uint16Of value).toUInt32 = value := by
  have hlt : natOfBytesBE value < 256 ^ 2 :=
    Nat.lt_of_lt_of_le (natOfBytesBE_lt value) (Nat.pow_le_pow_right (by decide) h.1)
  have hnumber : (uintOf value).toNat = natOfBytesBE value := by
    rw [uintOf, UInt32.toNat_ofNat_of_lt' (by simp only [UInt32.size]; omega)]
  have hcapped : (uint16Of value).toNat = natOfBytesBE value := by
    rw [uint16Of, hnumber, UInt16.toNat_ofNat_of_lt' (by simp only [UInt16.size]; omega)]
    omega
  have hsame : (uint16Of value).toUInt32 = uintOf value := by
    apply UInt32.toNat_inj.mp
    rw [UInt16.toNat_toUInt32, hcapped, hnumber]
  rw [hsame, encodeUint_uintOf ⟨Nat.le_trans h.1 (by decide), h.2⟩]

/-- A descriptor is exactly a 32-bit value. -/
theorem Block.toValue_ofValue (value : UInt32) : (Block.ofValue value).toValue = value := by
  have hbits : (ofValue value).number.val * 16 + (if (ofValue value).more then 8 else 0)
      + (ofValue value).exponent.val = value.toNat := by
    by_cases hmore : value.toNat / 8 % 2 = 1
    · have hset : (ofValue value).more = true := decide_eq_true hmore
      rw [hset, if_pos rfl]
      simp only [ofValue]
      omega
    · have hclear : (ofValue value).more = false := decide_eq_false hmore
      rw [hclear, if_neg Bool.false_ne_true]
      simp only [ofValue]
      omega
  rw [toValue, hbits, UInt32.ofNat_toNat]

/-- One value at most is read and written again if each is. -/
theorem toList_getLast?_map {α : Type} {read : Bytes → α} {write : α → Bytes}
    {values : List Bytes} (honce : values.length ≤ 1)
    (hwrite : ∀ value ∈ values, write (read value) = value) :
    (values.getLast?.map read).toList.map write = values := by
  match values with
  | [] => rfl
  | [value] =>
    have hvalue := hwrite value List.mem_cons_self
    simp [hvalue]
  | _ :: _ :: _ => simp at honce

theorem flagValues_isEmpty {values : List Bytes} (h : ValueFormat.flag.CanonicalValues values) :
    (if !values.isEmpty then [[]] else []) = values := by
  obtain ⟨heach, honce⟩ := h
  match values with
  | [] => rfl
  | [value] =>
    have hempty : value = [] := heach value List.mem_cons_self
    rw [hempty]
    rfl
  | _ :: _ :: _ => exact absurd (honce rfl) (by simp)

theorem utf8_partText {value : Bytes} (h : ∃ text, Text.utf8 text = value) :
    Text.utf8 (partText value) = value := by
  obtain ⟨text, rfl⟩ := h
  rw [partText_utf8]

/-- Parts without the separator are split where they were joined. -/
theorem partValues_joinParts {separator : Char} {values : List Bytes}
    (h : ∀ value ∈ values, (ValueFormat.part separator).Canonical value) :
    Message.partValues separator (joinParts separator values) = values := by
  by_cases hvalues : values = []
  · rw [joinParts, if_pos hvalues, hvalues]
    rfl
  · have hmapped : values.map partText ≠ [] := by simp [hvalues]
    have hparts : ∀ part ∈ values.map partText, separator ∉ part.toList := by
      intro part hmem
      obtain ⟨value, hvalue, rfl⟩ := List.mem_map.mp hmem
      obtain ⟨text, rfl, hfree⟩ := h value hvalue
      rwa [partText_utf8]
    have hwritten : (values.map partText).map Text.utf8 = values := by
      rw [List.map_map]
      refine (List.map_congr_left fun value hmem => ?_).trans (List.map_id values)
      obtain ⟨text, htext, _⟩ := h value hmem
      exact utf8_partText ⟨text, htext⟩
    rw [joinParts, if_neg hvalues, Message.partValues, Option.toList_some, List.flatMap_singleton,
      Text.split_join hmapped hparts, hwritten]

namespace Message

/-- **What is read is written again**, option by option. -/
theorem values_ofValues {opening : Message} (huri : opening.proxyUri = none)
    (hscheme : opening.proxyScheme = none) {values : OptionKind → List Bytes} {kind : OptionKind}
    (h : kind.format.CanonicalValues (values kind)) :
    (opening.ofValues values).values kind = values kind := by
  obtain ⟨heach, honce⟩ := h
  cases kind
  case ifMatch | etag =>
    have hkept := @toList_getLast?_map _ (·.take maxTagLength) id _ (honce rfl)
      fun value hmem => List.take_of_length_le (heach value hmem)
    rwa [List.map_id] at hkept
  case uriHost => exact toList_getLast?_map (honce rfl) fun value hmem => utf8_partText (heach value hmem)
  case ifNoneMatch => exact flagValues_isEmpty ⟨heach, honce⟩
  case observe | maxAge | size2 | size1 =>
    exact toList_getLast?_map (honce rfl) fun value hmem => encodeUint_uintOf (heach value hmem)
  case uriPort | contentFormat | accept =>
    exact toList_getLast?_map (honce rfl) fun value hmem => encodeUint_uint16Of (heach value hmem)
  case block2 | block1 =>
    refine toList_getLast?_map (honce rfl) fun value hmem => ?_
    rw [Function.comp_apply, Block.toValue_ofValue, encodeUint_uintOf (heach value hmem)]
  case locationPath | uriPath | uriQuery | locationQuery => exact partValues_joinParts heach
  case proxyUri =>
    have hempty := List.eq_nil_iff_forall_not_mem.mpr heach
    rw [hempty, Message.values, ofValues, huri]
    rfl
  case proxyScheme =>
    have hempty := List.eq_nil_iff_forall_not_mem.mpr heach
    rw [hempty, Message.values, ofValues, hscheme]
    rfl

/-- **What is written is canonical**, option by option. -/
theorem canonicalValues_values {message : Message} (hlimits : message.WithinLimits)
    (huri : message.proxyUri = none) (hscheme : message.proxyScheme = none) (kind : OptionKind) :
    kind.format.CanonicalValues (message.values kind) := by
  cases kind
  case ifMatch =>
    have htag := @ValueFormat.canonicalValues_toList_map _ .tag id _ hlimits.ifMatch
    rwa [List.map_id] at htag
  case etag =>
    have htag := @ValueFormat.canonicalValues_toList_map _ .tag id _ hlimits.etag
    rwa [List.map_id] at htag
  case uriHost => exact ValueFormat.canonicalValues_toList_map fun host _ => ⟨host, rfl⟩
  case ifNoneMatch => exact ValueFormat.canonicalValues_flag message.ifNoneMatch
  case observe | maxAge | size2 | size1 =>
    exact ValueFormat.canonicalValues_toList_map fun value _ => canonical_encodeUint value
  case uriPort | contentFormat | accept =>
    exact ValueFormat.canonicalValues_toList_map fun value _ => canonical_encodeUint16 value
  case block2 | block1 =>
    exact ValueFormat.canonicalValues_toList_map fun block _ => canonical_encodeUint block.toValue
  case locationPath | uriPath | uriQuery | locationQuery =>
    exact ValueFormat.canonicalValues_partValues _ _
  case proxyUri =>
    rw [Message.values, huri]
    exact ValueFormat.canonicalValues_nil .proxy
  case proxyScheme =>
    rw [Message.values, hscheme]
    exact ValueFormat.canonicalValues_nil .proxy

end Message

end MeshTelemetry
