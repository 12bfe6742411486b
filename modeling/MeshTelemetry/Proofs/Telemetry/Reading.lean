import MeshTelemetry.Proofs.Element.Listing
import MeshTelemetry.Proofs.Telemetry.RoundTrip

/-!
# What can be read from any bytes

The data of a received frame can be any bytes. Reading them fails in two ways only: an element is cut
before the search has an answer, or the telemetry that it finds is shorter than its header. The layout
plays no part in this, since a record that is not whole is passed over. Where reading succeeds, the
list of elements lies within the data, so that it can always be stripped.
-/

namespace MeshTelemetry

/-- What lies between telemetry and the bytes behind the list: a termination, unless none follows. -/
inductive Terminates : Bytes → Bytes → Prop where
  | closed (rest : Bytes) : Terminates payloadTermination rest
  | bare {rest : Bytes} : ¬ payloadTermination <+: rest → Terminates [] rest

/-- In front of `rest`, this is a list of elements with telemetry of the subtype, which has this
content and nothing but a termination behind it. -/
structure ListsTelemetry (subtype : UInt8) (content list rest : Bytes) : Prop where
  fits : content.length ≤ maxPayloadContent
  head : content.head? = some subtype
  elements : ∃ passed termination, PassedOver subtype passed ∧ Terminates termination rest ∧
    list = passed.flatMap Element.encode
      ++ ((Element.payload ietfGroup content).encode ++ termination)

/-- Why a reader of the subtype fails on the bytes, and the error that it reports. -/
inductive Undecodable (subtype : UInt8) : Bytes → TelemetryError → Prop where
  | cut {passed : List Element} {rest : Bytes} {fault : ElementFault} :
      PassedOver subtype passed → Element.Cut rest fault →
      Undecodable subtype (passed.flatMap Element.encode ++ rest)
        (.malformedElement (passed.flatMap Element.encode).length fault)
  | headless {content list rest : Bytes} :
      ListsTelemetry subtype content list rest → content.length < 4 →
      Undecodable subtype (list ++ rest) (.malformedElement 0 .headerTruncated)

theorem Undecodable.exists_malformedElement {subtype : UInt8} {bytes : Bytes}
    {err : TelemetryError} (h : Undecodable subtype bytes err) :
    ∃ offset fault, err = .malformedElement offset fault := by
  cases h with
  | cut => exact ⟨_, _, rfl⟩
  | headless => exact ⟨_, _, rfl⟩

theorem Terminates.length_eq {termination rest : Bytes} (h : Terminates termination rest) :
    terminationLength (termination ++ rest) = termination.length := by
  cases h with
  | closed => rfl
  | bare hbare =>
    rw [List.nil_append, terminationLength, if_neg]
    · rfl
    · intro htake
      exact hbare ⟨rest.drop 2, by rw [← htake, List.take_append_drop]⟩

theorem exists_terminates (after : Bytes) :
    ∃ termination rest, after = termination ++ rest ∧ Terminates termination rest := by
  by_cases hclosed : payloadTermination <+: after
  · obtain ⟨rest, rfl⟩ := hclosed
    exact ⟨_, rest, rfl, .closed rest⟩
  · exact ⟨[], after, rfl, .bare hclosed⟩

theorem TelemetryContent.decode_of_short {layout : RecordLayout} {bytes : Bytes}
    (h : bytes.length < 4) :
    decode layout bytes = .error (.malformedElement 0 .headerTruncated) := by
  match bytes, h with
  | [], _ | [_], _ | [_, _], _ | [_, _, _], _ => rfl

/-- Where a list holds telemetry, the search finds its content and the length of the list. -/
theorem ListsTelemetry.exists_span {subtype : UInt8} {content list rest : Bytes}
    (h : ListsTelemetry subtype content list rest) :
    ∃ span, findTelemetry (list ++ rest) subtype = .ok (some span) ∧ span.content = content ∧
      span.listLength = list.length := by
  obtain ⟨hfits, hhead, passed, termination, hpassed, hterminates, rfl⟩ := h
  refine ⟨.ofElement (passed.flatMap Element.encode).length (.payload ietfGroup content)
    (termination ++ rest), ?_, rfl, ?_⟩
  · rw [List.append_assoc, List.append_assoc,
      findTelemetry_of_stops hpassed (.found (termination ++ rest) hfits hhead)]
    rfl
  · simp only [TelemetrySpan.ofElement, hterminates.length_eq, List.length_append,
      Element.encode_length, Nat.add_assoc]

section

variable {settings : Settings}

theorem ListsTelemetry.readTelemetry_eq {content list rest : Bytes}
    (h : ListsTelemetry settings.subtype content list rest) :
    readTelemetry settings (list ++ rest)
      = (TelemetryContent.decode settings.layout content).map fun decoded =>
          some (decoded, list.length) := by
  obtain ⟨span, hspan, rfl, hlength⟩ := h.exists_span
  rw [readTelemetry, hspan, ok_bind, ← hlength]
  simp only
  cases TelemetryContent.decode settings.layout span.content with
  | error err => rfl
  | ok decoded => rfl

theorem readTelemetry_of_nothing {passed : List Element} {rest : Bytes}
    (hpassed : PassedOver settings.subtype passed)
    (hstops : Stops settings.subtype rest (.ok none)) :
    readTelemetry settings (passed.flatMap Element.encode ++ rest) = .ok none := by
  rw [readTelemetry, findTelemetry_of_stops hpassed hstops]
  rfl

theorem Undecodable.readTelemetry_eq {bytes : Bytes} {err : TelemetryError}
    (h : Undecodable settings.subtype bytes err) : readTelemetry settings bytes = .error err := by
  cases h with
  | cut hpassed hcut =>
    rw [readTelemetry, findTelemetry_of_stops hpassed (.cut hcut)]
    rfl
  | headless hlists hshort =>
    rw [hlists.readTelemetry_eq, TelemetryContent.decode_of_short hshort]
    rfl

end

/-- What a reader comes to on any bytes. -/
theorem readTelemetry_cases {settings : Settings} (hsize : 0 < settings.recordSize)
    (bytes : Bytes) :
    (∃ err, Undecodable settings.subtype bytes err ∧ readTelemetry settings bytes = .error err) ∨
      readTelemetry settings bytes = .ok none ∨
        ∃ content list rest decoded, ListsTelemetry settings.subtype content list rest ∧
          bytes = list ++ rest ∧ TelemetryContent.decode settings.layout content = .ok decoded ∧
            readTelemetry settings bytes = .ok (some (decoded, list.length)) := by
  obtain ⟨passed, stopped, answer, hpassed, rfl, hstops⟩ :=
    exists_passedOver_stops settings.subtype bytes
  cases hstops with
  | exhausted => exact .inr (.inl (readTelemetry_of_nothing hpassed .exhausted))
  | ended after hfits hother hends =>
    exact .inr (.inl (readTelemetry_of_nothing hpassed (.ended after hfits hother hends)))
  | cut hcut =>
    have hundecodable : Undecodable settings.subtype _ _ := .cut hpassed hcut
    exact .inl ⟨_, hundecodable, hundecodable.readTelemetry_eq⟩
  | @found content after hfits hhead =>
    obtain ⟨termination, rest, rfl, hterminates⟩ := exists_terminates after
    have hlists : ListsTelemetry settings.subtype content _ rest :=
      ⟨hfits, hhead, passed, termination, hpassed, hterminates, rfl⟩
    rw [← List.append_assoc (Element.encode _), ← List.append_assoc]
    by_cases hshort : content.length < 4
    · have hundecodable : Undecodable settings.subtype _ _ := .headless hlists hshort
      exact .inl ⟨_, hundecodable, hundecodable.readTelemetry_eq⟩
    · obtain ⟨decoded, hdecoded⟩ :=
        TelemetryContent.exists_decode hsize (Nat.le_of_not_lt hshort)
      refine .inr (.inr ⟨content, _, rest, decoded, hlists, rfl, hdecoded, ?_⟩)
      rw [hlists.readTelemetry_eq, hdecoded]
      rfl

/-- Reading fails for the stated reasons and for no other. -/
theorem readTelemetry_eq_error_iff {settings : Settings} (hsize : 0 < settings.recordSize)
    {bytes : Bytes} {err : TelemetryError} :
    readTelemetry settings bytes = .error err ↔ Undecodable settings.subtype bytes err := by
  constructor
  · intro h
    rcases readTelemetry_cases hsize bytes with ⟨other, hundecodable, hother⟩ | hnone | hsome
    · rw [hother] at h
      cases h
      exact hundecodable
    · rw [hnone] at h
      cases h
    · obtain ⟨_, _, _, _, _, _, _, hfound⟩ := hsome
      rw [hfound] at h
      cases h
  · exact Undecodable.readTelemetry_eq

/-- What is read comes from a list that holds it. -/
theorem exists_listsTelemetry_of_readTelemetry {settings : Settings}
    (hsize : 0 < settings.recordSize) {bytes : Bytes} {found : TelemetryContent} {listLength : Nat}
    (h : readTelemetry settings bytes = .ok (some (found, listLength))) :
    ∃ content list rest, ListsTelemetry settings.subtype content list rest ∧
      bytes = list ++ rest ∧ listLength = list.length ∧
        TelemetryContent.decode settings.layout content = .ok found := by
  rcases readTelemetry_cases hsize bytes with ⟨err, _, herror⟩ | hnone | hsome
  · rw [herror] at h
    cases h
  · rw [hnone] at h
    cases h
  · obtain ⟨content, list, rest, decoded, hlists, hbytes, hdecoded, hfound⟩ := hsome
    rw [hfound] at h
    cases h
    exact ⟨content, list, rest, hlists, hbytes, rfl, hdecoded⟩

/-- A reader of another layout reads the same header from the same list. -/
theorem readTelemetry_of_layout {settings other : Settings} (hsize : 0 < settings.recordSize)
    (hother : 0 < other.recordSize) (hsubtype : other.subtype = settings.subtype) {bytes : Bytes}
    {content : TelemetryContent} {listLength : Nat}
    (h : readTelemetry settings bytes = .ok (some (content, listLength))) :
    ∃ found, readTelemetry other bytes = .ok (some (found, listLength)) ∧
      found.header = content.header ∧ (other.layout = settings.layout → found = content) := by
  obtain ⟨encoded, list, rest, hlists, rfl, rfl, hdecoded⟩ :=
    exists_listsTelemetry_of_readTelemetry hsize h
  have hheader := TelemetryContent.header_of_decode hdecoded
  -- A header was read, so the other reader has the bytes of one too.
  have hlength : telemetryHeaderSize ≤ encoded.length := by
    match encoded with
    | _ :: _ :: _ :: _ :: _ => exact Nat.le_add_left _ _
    | [] | [_] | [_, _] | [_, _, _] => cases hheader
  obtain ⟨found, hfound⟩ := TelemetryContent.exists_decode hother hlength
  refine ⟨found, ?_, ?_, ?_⟩
  · rw [← hsubtype] at hlists
    rw [hlists.readTelemetry_eq, hfound]
    rfl
  · have hsame := TelemetryContent.header_of_decode hfound
    rw [hheader] at hsame
    exact (Except.ok.inj hsame).symm
  · intro hlayout
    rw [hlayout, hdecoded] at hfound
    exact (Except.ok.inj hfound).symm

end MeshTelemetry
