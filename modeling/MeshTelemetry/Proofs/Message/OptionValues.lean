import MeshTelemetry.Message.Options
import MeshTelemetry.Message.Decoding
import MeshTelemetry.Proofs.Message.UintValue
import MeshTelemetry.Proofs.Result
import MeshTelemetry.Proofs.Text

/-!
# The message that its options make

Absorbing options one by one ends in a message that can be read off their values: the last value of
a single-valued option, all parts of a text joined, an integer brought below the wrap. Which options
a receiver takes at all is a property of each option alone. So the fold of `absorb` over a list of
options succeeds exactly if each option is acceptable, and then its result has a closed form.
-/

namespace MeshTelemetry

def OptionKind.isProxy : OptionKind → Bool
  | .proxyUri | .proxyScheme => true
  | _ => false

/-- The options that a receiver reads as text. -/
def OptionKind.isText : OptionKind → Bool
  | .uriHost | .locationPath | .uriPath | .uriQuery | .locationQuery => true
  | _ => false

/-- What a receiver asks of an option: no proxy, known unless elective, a text if it has to be. -/
structure WireOption.Acceptable (option : WireOption) : Prop where
  not_proxy : ∀ kind : OptionKind, kind.number = option.number → kind.isProxy = false
  known_or_elective : (∃ kind : OptionKind, kind.number = option.number) ∨ option.number % 2 = 0
  is_text : ∀ kind : OptionKind, kind.number = option.number → kind.isText = true →
    ∃ text, Text.utf8 text = option.value

/-- The number of an integer option: big-endian, modulo `2 ^ 32`. -/
def uintOf (value : Bytes) : UInt32 := UInt32.ofNat (natOfBytesBE value)

/-- The number of a 16-bit option, capped at its greatest member. -/
def uint16Of (value : Bytes) : UInt16 := UInt16.ofNat (min (uintOf value).toNat 65535)

/-- The text of one part; bytes that are none count as empty. -/
def partText (value : Bytes) : String := (Text.ofUtf8? value).getD ""

/-- The text of many parts, present if there is a part. -/
def joinParts (separator : Char) (values : List Bytes) : Option String :=
  if values = [] then none else some (Text.join separator (values.map partText))

/-- The values of an option among numbered values, in their order. -/
def valuesOf (options : List WireOption) (kind : OptionKind) : List Bytes :=
  (options.filter (·.number == kind.number)).map WireOption.value

namespace Message

/-- The message whose options have these values, with all else as in `opening`. -/
def ofValues (opening : Message) (values : OptionKind → List Bytes) : Message :=
  { opening with
    ifMatch := (values .ifMatch).getLast?.map (·.take maxTagLength)
    uriHost := (values .uriHost).getLast?.map partText
    etag := (values .etag).getLast?.map (·.take maxTagLength)
    ifNoneMatch := !(values .ifNoneMatch).isEmpty
    observe := (values .observe).getLast?.map uintOf
    uriPort := (values .uriPort).getLast?.map uint16Of
    locationPath := joinParts '/' (values .locationPath)
    uriPath := joinParts '/' (values .uriPath)
    contentFormat := (values .contentFormat).getLast?.map uint16Of
    maxAge := (values .maxAge).getLast?.map uintOf
    uriQuery := joinParts '&' (values .uriQuery)
    accept := (values .accept).getLast?.map uint16Of
    locationQuery := joinParts '&' (values .locationQuery)
    block2 := (values .block2).getLast?.map (Block.ofValue ∘ uintOf)
    block1 := (values .block1).getLast?.map (Block.ofValue ∘ uintOf)
    size2 := (values .size2).getLast?.map uintOf
    size1 := (values .size1).getLast?.map uintOf }

end Message

def addValue (values : OptionKind → List Bytes) (kind : OptionKind) (value : Bytes) :
    OptionKind → List Bytes :=
  fun other => if other = kind then values other ++ [value] else values other

theorem decodeUint_eq_uintOf (value : Bytes) : decodeUint value = uintOf value := decodeUint_eq value

theorem decodeUint16_eq_uint16Of (value : Bytes) : decodeUint16 value = uint16Of value := by
  rw [decodeUint16, decodeUint_eq_uintOf, uint16Of]

theorem partText_utf8 (text : String) : partText (Text.utf8 text) = text := by
  rw [partText, Text.ofUtf8?_utf8, Option.getD_some]

theorem joinParts_concat (separator : Char) (values : List Bytes) (text : String) :
    joinParts separator (values ++ [Text.utf8 text])
      = Message.appendPart separator text (joinParts separator values) := by
  by_cases hvalues : values = []
  · simp [joinParts, hvalues, partText_utf8, Text.join_singleton, Message.appendPart]
  · have hmapped : values.map partText ≠ [] := by simp [hvalues]
    simp [joinParts, hvalues, partText_utf8, Text.join_concat _ hmapped, Message.appendPart]

namespace Message

theorem readText_utf8 (kind : OptionKind) (text : String) :
    readText kind (Text.utf8 text) = .ok text := by
  rw [readText, Text.ofUtf8?_utf8]

theorem readText_error {kind : OptionKind} {value : Bytes}
    (hvalue : ¬ ∃ text, Text.utf8 text = value) :
    readText kind value = .error (.invalidUtf8 kind.number) := by
  unfold readText
  split
  · rename_i text htext
    exact absurd ⟨text, Text.ofUtf8?_eq_some_iff.mp htext⟩ hvalue
  · rfl

/-- Storing one value appends it to the values of its option. -/
theorem absorbKnown_ofValues (opening : Message) (values : OptionKind → List Bytes)
    {kind : OptionKind} {value : Bytes} (hproxy : kind.isProxy = false)
    (htext : kind.isText = true → ∃ text, Text.utf8 text = value) :
    (opening.ofValues values).absorbKnown kind value
      = .ok (opening.ofValues (addValue values kind value)) := by
  cases kind
  case uriHost | locationPath | uriPath | uriQuery | locationQuery =>
    obtain ⟨text, rfl⟩ := htext rfl
    simp [absorbKnown, ofValues, addValue, readText_utf8, ok_bind, joinParts_concat, partText_utf8,
      pure, Except.pure]
  case proxyUri | proxyScheme => cases hproxy
  all_goals
    simp [absorbKnown, ofValues, addValue, decodeUint_eq_uintOf, decodeUint16_eq_uint16Of, pure,
      Except.pure]

theorem absorbKnown_proxy {message : Message} {kind : OptionKind} {value : Bytes}
    (hproxy : kind.isProxy = true) :
    message.absorbKnown kind value = .error (.proxyingNotSupported kind.number) := by
  cases kind
  case proxyUri | proxyScheme => rfl
  all_goals cases hproxy

theorem absorbKnown_no_text {message : Message} {kind : OptionKind} {value : Bytes}
    (htext : kind.isText = true) (hvalue : ¬ ∃ text, Text.utf8 text = value) :
    message.absorbKnown kind value = .error (.invalidUtf8 kind.number) := by
  cases kind
  case uriHost | locationPath | uriPath | uriQuery | locationQuery =>
    simp only [absorbKnown, readText_error hvalue]
    rfl
  all_goals cases htext

end Message

theorem OptionKind.number_injective {kind other : OptionKind} (h : kind.number = other.number) :
    kind = other := by
  have hfound := congrArg ofNumber? h
  rwa [ofNumber?_number, ofNumber?_number, Option.some.injEq] at hfound

theorem OptionKind.ofNumber?_eq_some_iff {number : Nat} {kind : OptionKind} :
    ofNumber? number = some kind ↔ kind.number = number := by
  constructor
  · exact number_of_ofNumber?
  · rintro rfl
    exact ofNumber?_number kind

theorem valuesOf_concat_known (options : List WireOption) {option : WireOption}
    {kind : OptionKind} (hkind : kind.number = option.number) :
    valuesOf (options ++ [option]) = addValue (valuesOf options) kind option.value := by
  funext other
  simp only [valuesOf, addValue, List.filter_append, List.map_append]
  by_cases heq : other = kind
  · subst heq
    simp [hkind]
  · have hne : option.number ≠ other.number := by
      rw [← hkind]
      exact fun h => heq (OptionKind.number_injective h.symm)
    simp [heq, hne]

theorem valuesOf_concat_unknown (options : List WireOption) {option : WireOption}
    (hunknown : ∀ kind : OptionKind, kind.number ≠ option.number) :
    valuesOf (options ++ [option]) = valuesOf options := by
  funext other
  have hne := (hunknown other).symm
  simp [valuesOf, hne]

namespace Message

theorem absorb_of_known {message : Message} {option : WireOption} {kind : OptionKind}
    (hkind : kind.number = option.number) :
    message.absorb option = message.absorbKnown kind option.value := by
  rw [absorb, OptionKind.ofNumber?_eq_some_iff.mpr hkind]

theorem absorb_of_unknown {message : Message} {option : WireOption}
    (hunknown : ∀ kind : OptionKind, kind.number ≠ option.number) :
    message.absorb option
      = if isCritical option.number then .error (.badOption option.number) else .ok message := by
  have hnone : OptionKind.ofNumber? option.number = none := by
    rw [Option.eq_none_iff_forall_ne_some]
    exact fun kind h => hunknown kind (OptionKind.ofNumber?_eq_some_iff.mp h)
  rw [absorb, hnone]

/-- A message absorbs only acceptable options. -/
theorem acceptable_of_absorb {message next : Message} {option : WireOption}
    (h : message.absorb option = .ok next) : option.Acceptable where
  not_proxy kind hkind := by
    rw [absorb_of_known hkind] at h
    by_contra hproxy
    rw [absorbKnown_proxy (by simpa using hproxy)] at h
    cases h
  known_or_elective := by
    by_cases hknown : ∃ kind : OptionKind, kind.number = option.number
    · exact .inl hknown
    · rw [absorb_of_unknown (fun kind hkind => hknown ⟨kind, hkind⟩)] at h
      split at h
      · cases h
      · rename_i helective
        simp only [isCritical, decide_eq_true_eq] at helective
        exact .inr (by omega)
  is_text kind hkind htext := by
    rw [absorb_of_known hkind] at h
    by_contra hvalue
    rw [absorbKnown_no_text htext hvalue] at h
    cases h

/-- An acceptable option joins those before it. -/
theorem absorb_ofValues (opening : Message) (options : List WireOption) {option : WireOption}
    (hacceptable : option.Acceptable) :
    (opening.ofValues (valuesOf options)).absorb option
      = .ok (opening.ofValues (valuesOf (options ++ [option]))) := by
  by_cases hknown : ∃ kind : OptionKind, kind.number = option.number
  · obtain ⟨kind, hkind⟩ := hknown
    rw [absorb_of_known hkind, valuesOf_concat_known options hkind]
    exact absorbKnown_ofValues opening _ (hacceptable.not_proxy kind hkind)
      (hacceptable.is_text kind hkind)
  · have hunknown : ∀ kind : OptionKind, kind.number ≠ option.number :=
      fun kind hkind => hknown ⟨kind, hkind⟩
    have helective := hacceptable.known_or_elective.resolve_left hknown
    rw [absorb_of_unknown hunknown, valuesOf_concat_unknown options hunknown,
      if_neg (by simp [isCritical, helective])]

/-- **The fold in closed form.** From a message without options, absorbing a list of options
succeeds exactly if each of them is acceptable, and gives the message that their values make. -/
theorem foldlM_absorb_eq_ok_iff {opening message : Message}
    (hopening : opening.ofValues (valuesOf []) = opening) {options : List WireOption} :
    options.foldlM absorb opening = .ok message ↔
      (∀ option ∈ options, option.Acceptable) ∧
        message = opening.ofValues (valuesOf options) := by
  -- From the right, so that the values before the last option are those of a message at hand.
  induction options using List.reverseRecOn generalizing message with
  | nil =>
    rw [hopening]
    constructor
    · intro h
      cases h
      exact ⟨by simp, rfl⟩
    · rintro ⟨_, rfl⟩
      rfl
  | append_singleton options option ih =>
    rw [List.foldlM_append, bind_eq_ok_iff]
    simp only [List.foldlM_cons, List.foldlM_nil, bind_eq_ok_iff, List.forall_mem_append,
      List.forall_mem_singleton]
    constructor
    · rintro ⟨before, hbefore, after, hafter, h⟩
      cases h
      obtain ⟨hall, rfl⟩ := ih.mp hbefore
      have hacceptable := acceptable_of_absorb hafter
      rw [absorb_ofValues opening options hacceptable, Except.ok.injEq] at hafter
      exact ⟨⟨hall, hacceptable⟩, hafter.symm⟩
    · rintro ⟨⟨hall, hacceptable⟩, rfl⟩
      exact ⟨_, ih.mpr ⟨hall, rfl⟩, _, absorb_ofValues opening options hacceptable, rfl⟩

end Message

end MeshTelemetry
