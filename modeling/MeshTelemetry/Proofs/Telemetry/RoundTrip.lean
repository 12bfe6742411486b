import MeshTelemetry.Proofs.Bytes
import MeshTelemetry.Proofs.Element.Walk
import MeshTelemetry.Proofs.Node.Carriage

/-!
# Telemetry read back

The elements that an embedding writes are found again in front of any payload, and their length is
what the reader takes the list for. A reader of the same layout reads the content as it was written.
A reader of another layout cuts the records differently, but it reads some content and the list has
the same length.
-/

namespace MeshTelemetry

theorem Sample.decode_encoded (sample : Sample) : Sample.decode sample.encode = sample := by
  have hid : natOfBytesLE (bytesLE 2 sample.nodeId.toNat) = sample.nodeId.toNat := by
    rw [natOfBytesLE_bytesLE]
    exact Nat.mod_eq_of_lt sample.nodeId.toNat_lt
  have hshared : natOfBytesLE (bytesLE 2 sample.channelAndSlot) = sample.channelAndSlot := by
    have hchannel := sample.channel.isLt
    have hslot := sample.slot.isLt
    rw [natOfBytesLE_bytesLE]
    apply Nat.mod_eq_of_lt
    simp only [channelAndSlot]
    omega
  have hchannel : lowNibble (sample.channelAndSlot / 4096) = sample.channel := by
    have hchannel := sample.channel.isLt
    have hslot := sample.slot.isLt
    apply Fin.ext
    simp only [lowNibble, channelAndSlot]
    omega
  have hslot : Fin.ofNat 4096 sample.channelAndSlot = sample.slot := by
    have hslot := sample.slot.isLt
    apply Fin.ext
    simp only [Fin.ofNat, channelAndSlot]
    omega
  have hrssi : natOfBytesLE [sample.rssi.toUInt8] = sample.rssi.toUInt8.toNat := by
    simp [natOfBytesLE]
  have hparts : Sample.decode sample.encode
      = { nodeId := UInt16.ofNat (natOfBytesLE (bytesLE 2 sample.nodeId.toNat))
          channel := lowNibble (natOfBytesLE (bytesLE 2 sample.channelAndSlot) / 4096)
          slot := Fin.ofNat 4096 (natOfBytesLE (bytesLE 2 sample.channelAndSlot))
          rssi := (UInt8.ofNat (natOfBytesLE [sample.rssi.toUInt8])).toInt8 } := rfl
  rw [hparts, hid, hshared, hrssi, hchannel, hslot, UInt16.ofNat_toNat, UInt8.ofNat_toNat]
  rfl

theorem Record.decode_encoded {layout : RecordLayout} {record : Record}
    (h : record.hasLayout layout = true) : Record.decode layout record.encode = .ok record := by
  have hlength := record.encode_length.trans (encodedLength_of_hasLayout h)
  unfold Record.decode
  rw [if_pos hlength]
  cases record with
  | sample fields =>
    cases layout with
    | sample => simp only [encode, Sample.decode_encoded]
    | filler size => cases h
  | filler bytes =>
    cases layout with
    | sample => cases h
    | filler size => rfl

/-- The pieces are whole if there are bytes enough. -/
theorem length_of_mem_chunks {size count : Nat} {bytes piece : Bytes}
    (henough : count * size ≤ bytes.length) (hmem : piece ∈ chunks size count bytes) :
    piece.length = size := by
  induction count generalizing bytes with
  | zero => cases hmem
  | succ count ih =>
    rw [Nat.add_one_mul] at henough
    rcases List.mem_cons.mp hmem with rfl | hmem
    · rw [List.length_take]
      omega
    · apply ih _ hmem
      rw [List.length_drop]
      omega

/-- Records of one layout lie one behind the other, and cutting gives them back. -/
theorem chunks_flatMap_encode {layout : RecordLayout} {records : List Record}
    (h : ∀ record ∈ records, record.hasLayout layout = true) (rest : Bytes) :
    chunks layout.recordSize records.length (records.flatMap Record.encode ++ rest)
      = records.map Record.encode := by
  induction records with
  | nil => rfl
  | cons record records ih =>
    obtain ⟨hrecord, hrecords⟩ := List.forall_mem_cons.mp h
    have hlength := record.encode_length.trans (Record.encodedLength_of_hasLayout hrecord)
    rw [List.length_cons, List.flatMap_cons, List.map_cons, chunks, List.append_assoc,
      List.take_left' hlength, List.drop_left' hlength, ih hrecords]

/-- How many whole records there are, and how many bytes are left over. -/
theorem divMod_length_records {layout : RecordLayout} {records : List Record}
    (h : ∀ record ∈ records, record.hasLayout layout = true) {rest : Bytes}
    (hrest : rest.length < layout.recordSize) :
    (records.flatMap Record.encode ++ rest).length / layout.recordSize = records.length ∧
      (records.flatMap Record.encode ++ rest).length % layout.recordSize = rest.length := by
  have hlength : (records.flatMap Record.encode ++ rest).length
      = rest.length + records.length * layout.recordSize := by
    rw [List.length_append, length_flatMap_encode, encodedLength_foldr h, Nat.add_comm]
  rw [hlength]
  constructor
  · rw [Nat.add_mul_div_right _ _ (Nat.zero_lt_of_lt hrest), Nat.div_eq_of_lt hrest, Nat.zero_add]
  · rw [Nat.add_mul_mod_self_right, Nat.mod_eq_of_lt hrest]

namespace TelemetryContent

/-- Content of four bytes or more decodes in every layout whose records have bytes. -/
theorem exists_decode {layout : RecordLayout} {bytes : Bytes} (hsize : 0 < layout.recordSize)
    (hlength : telemetryHeaderSize ≤ bytes.length) :
    ∃ content, decode layout bytes = .ok content := by
  obtain ⟨header, hheader⟩ : ∃ header, TelemetryHeader.decode bytes = .ok header := by
    match bytes, hlength with
    | subtype :: control :: sequence :: bitmap :: _, _ => exact ⟨_, rfl⟩
  obtain ⟨records, hrecords⟩ : ∃ records,
      (chunks layout.recordSize ((bytes.drop telemetryHeaderSize).length / layout.recordSize)
        (bytes.drop telemetryHeaderSize)).mapM (Record.decode layout) = .ok records := by
    apply exists_mapM_eq_ok
    intro piece hmem
    have hpiece := length_of_mem_chunks (Nat.div_mul_le_self _ _) hmem
    exact ⟨_, if_pos hpiece⟩
  refine ⟨⟨header, records⟩, ?_⟩
  rw [decode, hheader, ok_bind]
  simp only
  rw [if_neg (by omega), hrecords]
  rfl

/-- Content of the reader's layout is read as it was written, and bytes behind it that make up no
record are passed over. -/
theorem decode_encode_append {layout : RecordLayout} {content : TelemetryContent}
    (hlayout : ∀ record ∈ content.records, record.hasLayout layout = true) {rest : Bytes}
    (hrest : rest.length < layout.recordSize) :
    decode layout (content.encode ++ rest) = .ok content := by
  have hbody : (content.encode ++ rest).drop telemetryHeaderSize
      = content.records.flatMap Record.encode ++ rest := rfl
  have hcount := (divMod_length_records hlayout hrest).1
  have hrecords : (content.records.map Record.encode).mapM (Record.decode layout)
      = .ok content.records :=
    mapM_map_eq_ok fun record hmem => Record.decode_encoded (hlayout record hmem)
  have hheader : TelemetryHeader.decode (content.encode ++ rest) = .ok content.header := rfl
  rw [decode, hheader, ok_bind]
  simp only
  rw [if_neg (by omega), hbody, hcount, chunks_flatMap_encode hlayout, hrecords]
  rfl

/-- Content of the reader's layout is read as it was written. -/
theorem decode_encoded {layout : RecordLayout} {content : TelemetryContent}
    (hsize : 0 < layout.recordSize)
    (hlayout : ∀ record ∈ content.records, record.hasLayout layout = true) :
    decode layout content.encode = .ok content := by
  have hempty : ([] : Bytes).length < layout.recordSize := hsize
  have hread := decode_encode_append hlayout hempty
  rwa [List.append_nil] at hread

/-- Where a walk meets the telemetry that an embedding wrote. -/
def writtenSpan (content : TelemetryContent) : TelemetrySpan where
  start := headerTermination.length + descriptorSize
  content := content.encode
  listLength := content.elements.length

/-- The elements are found in front of any payload. -/
theorem findTelemetry_elements {content : TelemetryContent}
    (hfits : content.encodedLength ≤ maxPayloadContent) (payload : Bytes) :
    findTelemetry (content.elements ++ payload) content.header.subtype
      = .ok (some content.writtenSpan) := by
  have hbytes : content.elements ++ payload
      = (Element.header 0x7E []).encode ++ ((Element.payload ietfGroup content.encode).encode
          ++ (payloadTermination ++ payload)) := by
    simp only [elements, Element.encode, Element.descriptor, Element.content,
      content.encode_length, List.append_assoc]
    rfl
  have hpayload : (Element.payload ietfGroup content.encode).content.length
      ≤ (Element.payload ietfGroup content.encode).contentLimit := by
    rw [Element.content, content.encode_length]
    exact hfits
  have htelemetry : (Element.payload ietfGroup content.encode).isTelemetry content.header.subtype
      = true := by
    simp [Element.isTelemetry, encode, TelemetryHeader.encode]
  have htermination : terminationLength (payloadTermination ++ payload) = 2 := rfl
  have hlist : content.elements.length = 2 + descriptorSize + content.encode.length + 2 := by
    rw [elements_length, content.encode_length]
    simp only [minElementOverhead, descriptorSize]
    omega
  calc findTelemetry (content.elements ++ payload) content.header.subtype
      = ElementWalk.findTelemetry ⟨(Element.payload ietfGroup content.encode).encode
          ++ (payloadTermination ++ payload), 2, false⟩ content.header.subtype := by
        rw [findTelemetry, ElementWalk.ofBytes, hbytes]
        exact @ElementWalk.findTelemetry_skip (.header 0x7E []) _ (Nat.zero_le _) rfl 0 _
    _ = .ok (some (.ofElement 2 (.payload ietfGroup content.encode)
          (payloadTermination ++ payload))) :=
        ElementWalk.findTelemetry_stop hpayload htelemetry 2 _
    _ = .ok (some content.writtenSpan) := by
        rw [TelemetrySpan.ofElement, htermination, writtenSpan, hlist]
        rfl

end TelemetryContent

/-- A reader of any layout finds some content where an embedding wrote one, and takes the list of
elements to be as long as it is. -/
theorem exists_readTelemetry_elements {settings : Settings} {content : TelemetryContent}
    (hsize : 0 < settings.recordSize) (hsubtype : content.header.subtype = settings.subtype)
    (hfits : content.encodedLength ≤ maxPayloadContent) (payload : Bytes) :
    ∃ found, readTelemetry settings (content.elements ++ payload)
      = .ok (some (found, content.elements.length)) := by
  have hlength : telemetryHeaderSize ≤ content.encode.length := by
    rw [content.encode_length]
    exact Nat.le_add_right _ _
  obtain ⟨found, hfound⟩ := TelemetryContent.exists_decode hsize hlength
  have hspan := TelemetryContent.findTelemetry_elements hfits payload
  rw [hsubtype] at hspan
  refine ⟨found, ?_⟩
  rw [readTelemetry, hspan, ok_bind]
  simp only [TelemetryContent.writtenSpan]
  rw [hfound]
  rfl

/-- A reader of the same layout finds the content that was written. -/
theorem readTelemetry_elements {settings : Settings} {content : TelemetryContent}
    (hsize : 0 < settings.recordSize) (hsubtype : content.header.subtype = settings.subtype)
    (hlayout : ∀ record ∈ content.records, record.hasLayout settings.layout = true)
    (hfits : content.encodedLength ≤ maxPayloadContent) (payload : Bytes) :
    readTelemetry settings (content.elements ++ payload)
      = .ok (some (content, content.elements.length)) := by
  have hspan := TelemetryContent.findTelemetry_elements hfits payload
  rw [hsubtype] at hspan
  rw [readTelemetry, hspan, ok_bind]
  simp only [TelemetryContent.writtenSpan]
  rw [TelemetryContent.decode_encoded hsize hlayout]
  rfl

end MeshTelemetry
