import MeshTelemetry.Node.Carriage
import MeshTelemetry.Proofs.Result

/-!
# Records of one layout

All records of a node have the node's layout, whether it made them or read them, so a list of
records has a size that its length determines. What is read as telemetry has the subtype that was
looked for, since an element is taken for telemetry by its first byte, and that is the header's.
-/

namespace MeshTelemetry

namespace Record

theorem encode_length (record : Record) : record.encode.length = record.encodedLength := by
  cases record with
  | sample fields => simp [encode, Sample.encode, encodedLength, bytesLE_length, sampleSize]
  | filler bytes => rfl

theorem encodedLength_of_hasLayout {record : Record} {layout : RecordLayout}
    (h : record.hasLayout layout = true) : record.encodedLength = layout.recordSize := by
  cases record <;> cases layout <;> simp_all [hasLayout, encodedLength, RecordLayout.recordSize]

theorem hasLayout_of_decode {layout : RecordLayout} {bytes : Bytes} {record : Record}
    (h : decode layout bytes = .ok record) : record.hasLayout layout = true := by
  unfold decode at h
  split at h
  · rename_i hlength
    cases layout with
    | sample =>
      cases h
      rfl
    | filler size =>
      cases h
      simpa [hasLayout, RecordLayout.recordSize] using hlength
  · cases h

theorem hasLayout_fillChannel (channel : Nat) (record : Record) (layout : RecordLayout) :
    (record.fillChannel channel).hasLayout layout = record.hasLayout layout := by
  cases record <;> cases layout <;> rfl

end Record

theorem Environment.hasLayout_of_ownRecord {environment : Environment} {layout : RecordLayout}
    {bitmap : UInt8} {origin : TrafficOrigin} {record : Record}
    (h : environment.ownRecord? layout bitmap origin = some record) :
    record.hasLayout layout = true := by
  unfold ownRecord? at h
  split at h
  · cases layout with
    | sample =>
      cases h
      rfl
    | filler size =>
      cases h
      simp [Record.hasLayout]
  · cases h

theorem encodedLength_foldr {layout : RecordLayout} {records : List Record}
    (h : ∀ record ∈ records, record.hasLayout layout = true) :
    records.foldr (fun record length => record.encodedLength + length) 0
      = records.length * layout.recordSize := by
  induction records with
  | nil => simp
  | cons record records ih =>
    obtain ⟨hrecord, hrecords⟩ := List.forall_mem_cons.mp h
    rw [List.foldr_cons, ih hrecords, Record.encodedLength_of_hasLayout hrecord, List.length_cons,
      Nat.add_one_mul, Nat.add_comm]

theorem length_flatMap_encode (records : List Record) :
    (records.flatMap Record.encode).length
      = records.foldr (fun record length => record.encodedLength + length) 0 := by
  induction records with
  | nil => rfl
  | cons record records ih =>
    rw [List.flatMap_cons, List.length_append, ih, Record.encode_length, List.foldr_cons]

namespace TelemetryContent

theorem encode_length (content : TelemetryContent) :
    content.encode.length = content.encodedLength := by
  rw [encode, List.length_append, length_flatMap_encode]
  rfl

theorem encodedLength_of_layout {content : TelemetryContent} {layout : RecordLayout}
    (h : ∀ record ∈ content.records, record.hasLayout layout = true) :
    content.encodedLength
      = telemetryHeaderSize + content.records.length * layout.recordSize := by
  rw [encodedLength, encodedLength_foldr h]

theorem hasLayout_of_decode {layout : RecordLayout} {bytes : Bytes} {content : TelemetryContent}
    (h : decode layout bytes = .ok content) :
    ∀ record ∈ content.records, record.hasLayout layout = true := by
  obtain ⟨header, _, h⟩ := bind_eq_ok_iff.mp h
  simp only at h
  split at h
  · cases h
  · obtain ⟨records, hrecords, h⟩ := bind_eq_ok_iff.mp h
    cases h
    intro record hmem
    obtain ⟨piece, _, hpiece⟩ := exists_of_mem_mapM hrecords hmem
    exact Record.hasLayout_of_decode hpiece

theorem header_of_decode {layout : RecordLayout} {bytes : Bytes} {content : TelemetryContent}
    (h : decode layout bytes = .ok content) :
    TelemetryHeader.decode bytes = .ok content.header := by
  obtain ⟨header, hheader, h⟩ := bind_eq_ok_iff.mp h
  simp only at h
  split at h
  · cases h
  · obtain ⟨records, _, h⟩ := bind_eq_ok_iff.mp h
    cases h
    exact hheader

/-- What is read from a frame has the header that stands in the frame. -/
theorem encode_header_isPrefix {layout : RecordLayout} {bytes : Bytes}
    {content : TelemetryContent} (h : decode layout bytes = .ok content) :
    content.header.encode <+: bytes := by
  have hheader := header_of_decode h
  match bytes with
  | subtype :: control :: sequence :: bitmap :: rest =>
    rw [← Except.ok.inj hheader]
    exact ⟨rest, rfl⟩

theorem head?_of_decode {layout : RecordLayout} {bytes : Bytes} {content : TelemetryContent}
    (h : decode layout bytes = .ok content) : bytes.head? = some content.header.subtype := by
  have hheader := header_of_decode h
  match bytes with
  | subtype :: control :: sequence :: bitmap :: _ =>
    rw [← Except.ok.inj hheader]
    rfl
  | [] | [_] | [_, _] | [_, _, _] => cases hheader

theorem hasLayout_fillChannels {layout : RecordLayout} (content : TelemetryContent)
    (h : ∀ record ∈ content.records, record.hasLayout layout = true) (channel : Nat) :
    ∀ record ∈ (content.fillChannels channel).records, record.hasLayout layout = true := by
  intro record hmem
  obtain ⟨before, hbefore, rfl⟩ := List.mem_map.mp hmem
  rw [Record.hasLayout_fillChannel]
  exact h before hbefore

end TelemetryContent

namespace ElementWalk

variable {walk after : ElementWalk} {subtype : UInt8}

theorem findTelemetry_of_end (h : walk.next? = none) : walk.findTelemetry subtype = .ok none := by
  rw [findTelemetry]
  split
  · rfl
  all_goals simp_all

theorem findTelemetry_of_error {err : TelemetryError} (h : walk.next? = some (.error err, after)) :
    walk.findTelemetry subtype = .error err := by
  rw [findTelemetry]
  split
  all_goals simp_all

theorem findTelemetry_of_element {offset : Nat} {element : Element}
    (h : walk.next? = some (.ok (offset, element), after)) :
    walk.findTelemetry subtype
      = if element.isTelemetry subtype then .ok (some (.ofElement offset element after.rest))
        else after.findTelemetry subtype := by
  rw [findTelemetry]
  split
  all_goals simp_all

/-- What is found starts with the subtype that was looked for. -/
theorem head?_of_findTelemetry {span : TelemetrySpan}
    (h : walk.findTelemetry subtype = .ok (some span)) : span.content.head? = some subtype := by
  induction walk using ElementWalk.findTelemetry.induct subtype with
  | case1 walk hnext =>
    rw [findTelemetry_of_end hnext] at h
    cases h
  | case2 walk err after hnext =>
    rw [findTelemetry_of_error hnext] at h
    cases h
  | case3 walk offset element after hnext _ hfound =>
    rw [findTelemetry_of_element hnext, if_pos hfound] at h
    cases h
    cases element with
    | header id content => cases hfound
    | payload group content =>
      simp only [Element.isTelemetry, Bool.and_eq_true, decide_eq_true_eq] at hfound
      exact hfound.2
  | case4 walk offset element after hnext _ hother ih =>
    rw [findTelemetry_of_element hnext, if_neg hother] at h
    exact ih h

end ElementWalk

theorem exists_span_of_readTelemetry {settings : Settings} {data : Bytes}
    {found : TelemetryContent} {listLength : Nat}
    (h : readTelemetry settings data = .ok (some (found, listLength))) :
    ∃ span, findTelemetry data settings.subtype = .ok (some span) ∧
      TelemetryContent.decode settings.layout span.content = .ok found := by
  obtain ⟨span?, hspan, h⟩ := bind_eq_ok_iff.mp h
  cases span? with
  | none => cases h
  | some span =>
    obtain ⟨decoded, hdecoded, h⟩ := bind_eq_ok_iff.mp h
    cases h
    exact ⟨span, hspan, hdecoded⟩

/-- What is read has the subtype and the layout of the settings. -/
theorem content_of_readTelemetry {settings : Settings} {data : Bytes} {content : TelemetryContent}
    {listLength : Nat} (h : readTelemetry settings data = .ok (some (content, listLength))) :
    content.header.subtype = settings.subtype ∧
      ∀ record ∈ content.records, record.hasLayout settings.layout = true := by
  obtain ⟨span, hspan, hdecode⟩ := exists_span_of_readTelemetry h
  have hfirst := ElementWalk.head?_of_findTelemetry hspan
  rw [TelemetryContent.head?_of_decode hdecode, Option.some.injEq] at hfirst
  exact ⟨hfirst, TelemetryContent.hasLayout_of_decode hdecode⟩

end MeshTelemetry
