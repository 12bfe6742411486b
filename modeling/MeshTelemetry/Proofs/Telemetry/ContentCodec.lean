import MeshTelemetry.Proofs.Telemetry.Reading
import MeshTelemetry.Proofs.Telemetry.RoundTrip

/-!
# What decodes as telemetry content

A record of a layout is any piece of the record's size, and the record is that piece: nothing is lost
on reading it and nothing added on writing it. So content reads from exactly the bytes that are the
content's own followed by less than a record, and which content that is, is settled by the length of
the bytes alone. Reading the records one by one never fails, since they were cut to the size first.
-/

namespace MeshTelemetry

namespace Sample

/-- The channel and the slot are the two digits of their shared word. -/
theorem channelAndSlot_eq {shared : Nat} (h : shared < 65536) (sample : Sample)
    (hchannel : sample.channel = lowNibble (shared / 4096))
    (hslot : sample.slot = Fin.ofNat 4096 shared) : sample.channelAndSlot = shared := by
  rw [channelAndSlot, hchannel, hslot]
  simp only [lowNibble, Fin.ofNat]
  omega

/-- Any five bytes are a sample. -/
theorem encode_decode {bytes : Bytes} (h : bytes.length = sampleSize) :
    (decode bytes).encode = bytes := by
  have hword (low high : UInt8) : natOfBytesLE [low, high] < 65536 := by
    simpa using natOfBytesLE_lt [low, high]
  have hwide (low high : UInt8) : bytesLE 2 (natOfBytesLE [low, high]) = [low, high] :=
    bytesLE_natOfBytesLE (Nat.le_refl 2)
  match bytes, h with
  | [idLow, idHigh, sharedLow, sharedHigh, rssi], _ =>
    have hid : (UInt16.ofNat (natOfBytesLE [idLow, idHigh])).toNat
        = natOfBytesLE [idLow, idHigh] := by
      rw [UInt16.toNat_ofNat']
      exact Nat.mod_eq_of_lt (hword idLow idHigh)
    have hshared : (decode [idLow, idHigh, sharedLow, sharedHigh, rssi]).channelAndSlot
        = natOfBytesLE [sharedLow, sharedHigh] :=
      channelAndSlot_eq (hword sharedLow sharedHigh) _ rfl rfl
    have hrssi : (UInt8.ofNat (natOfBytesLE [rssi])).toInt8.toUInt8 = rssi := by
      simp [natOfBytesLE]
    rw [encode, hshared, hwide]
    calc bytesLE 2 (UInt16.ofNat (natOfBytesLE [idLow, idHigh])).toNat
          ++ [sharedLow, sharedHigh]
          ++ [(UInt8.ofNat (natOfBytesLE [rssi])).toInt8.toUInt8]
        = [idLow, idHigh] ++ [sharedLow, sharedHigh] ++ [rssi] := by rw [hid, hwide, hrssi]

end Sample

namespace Record

/-- A record is read from its own bytes and from no others. -/
theorem decode_eq_ok_iff {layout : RecordLayout} {bytes : Bytes} {record : Record} :
    decode layout bytes = .ok record ↔ record.hasLayout layout = true ∧ record.encode = bytes := by
  constructor
  · intro h
    refine ⟨hasLayout_of_decode h, ?_⟩
    unfold decode at h
    split at h
    · rename_i hlength
      cases layout with
      | sample =>
        cases h
        exact Sample.encode_decode hlength
      | filler size =>
        cases h
        rfl
    · cases h
  · rintro ⟨hlayout, rfl⟩
    exact decode_encoded hlayout

theorem exists_decode_iff {layout : RecordLayout} {bytes : Bytes} :
    (∃ record, decode layout bytes = .ok record) ↔ bytes.length = layout.recordSize := by
  constructor
  · rintro ⟨record, h⟩
    obtain ⟨hlayout, rfl⟩ := decode_eq_ok_iff.mp h
    exact record.encode_length.trans (encodedLength_of_hasLayout hlayout)
  · intro h
    exact ⟨_, if_pos h⟩

end Record

/-- The pieces are the bytes up to where the cutting stops. -/
theorem flatten_chunks (size count : Nat) (bytes : Bytes) :
    (chunks size count bytes).flatten = bytes.take (count * size) := by
  induction count generalizing bytes with
  | zero => rw [Nat.zero_mul, List.take_zero, chunks, List.flatten_nil]
  | succ count ih =>
    rw [chunks, List.flatten_cons, ih, ← List.take_add, Nat.add_one_mul, Nat.add_comm]

namespace TelemetryContent

/-- The bytes behind the header are the records and less than one more. -/
theorem exists_rest_of_mapM {layout : RecordLayout} {body : Bytes} {records : List Record}
    (hsize : 0 < layout.recordSize)
    (h : (chunks layout.recordSize (body.length / layout.recordSize) body).mapM
      (Record.decode layout) = .ok records) :
    ∃ rest, body = records.flatMap Record.encode ++ rest ∧ rest.length < layout.recordSize := by
  have hpieces : records.map Record.encode
      = chunks layout.recordSize (body.length / layout.recordSize) body :=
    map_of_mapM (fun piece record hpiece => (Record.decode_eq_ok_iff.mp hpiece).2) h
  have htaken : records.flatMap Record.encode
      = body.take (body.length / layout.recordSize * layout.recordSize) := by
    rw [List.flatMap_def, hpieces, flatten_chunks]
  refine ⟨body.drop (body.length / layout.recordSize * layout.recordSize), ?_, ?_⟩
  · rw [htaken, List.take_append_drop]
  · have hmod := Nat.mod_lt body.length hsize
    have hdivision := Nat.div_add_mod' body.length layout.recordSize
    rw [List.length_drop]
    omega

/-- Content is read from its own bytes followed by less than a record, and from no others. -/
theorem decode_eq_ok_iff {layout : RecordLayout} {bytes : Bytes} {content : TelemetryContent} :
    decode layout bytes = .ok content ↔
      (∀ record ∈ content.records, record.hasLayout layout = true) ∧
        ∃ rest, bytes = content.encode ++ rest ∧ rest.length < layout.recordSize := by
  constructor
  · intro h
    refine ⟨hasLayout_of_decode h, ?_⟩
    obtain ⟨body, rfl⟩ := encode_header_isPrefix h
    obtain ⟨header, hheader, h⟩ := bind_eq_ok_iff.mp h
    simp only at h
    split at h
    · cases h
    · rename_i hsize
      obtain ⟨records, hrecords, h⟩ := bind_eq_ok_iff.mp h
      cases h
      obtain ⟨rest, hbody, hrest⟩ := exists_rest_of_mapM (Nat.pos_of_ne_zero hsize) hrecords
      refine ⟨rest, ?_, hrest⟩
      rw [encode, List.append_assoc, ← hbody]
      rfl
  · rintro ⟨hlayout, rest, rfl, hrest⟩
    exact decode_encode_append hlayout hrest

theorem exists_decode_iff {layout : RecordLayout} (hsize : 0 < layout.recordSize) {bytes : Bytes} :
    (∃ content, decode layout bytes = .ok content) ↔ telemetryHeaderSize ≤ bytes.length := by
  constructor
  · rintro ⟨content, h⟩
    obtain ⟨_, rest, rfl, _⟩ := decode_eq_ok_iff.mp h
    rw [encode, List.append_assoc, List.length_append]
    exact Nat.le_add_right telemetryHeaderSize _
  · exact exists_decode hsize

/-- Without a record size there is nothing to cut the bytes into. -/
theorem decode_of_recordSize_eq_zero {layout : RecordLayout} {bytes : Bytes}
    (hsize : layout.recordSize = 0) (hlength : telemetryHeaderSize ≤ bytes.length) :
    decode layout bytes = .error (.layoutMismatch 0 (bytes.length - telemetryHeaderSize)) := by
  match bytes, hlength with
  | _ :: _ :: _ :: _ :: body, _ => exact if_pos hsize

/-- What was read is all of the bytes up to the piece that is no record. -/
theorem encode_of_decode {layout : RecordLayout} {bytes : Bytes} {content : TelemetryContent}
    (h : decode layout bytes = .ok content) :
    content.records.length = (bytes.length - telemetryHeaderSize) / layout.recordSize ∧
      content.encode
        = bytes.take (bytes.length - (bytes.length - telemetryHeaderSize) % layout.recordSize) := by
  obtain ⟨hlayout, rest, rfl, hrest⟩ := decode_eq_ok_iff.mp h
  obtain ⟨hdiv, hmod⟩ := divMod_length_records hlayout hrest
  have hbody : (content.encode ++ rest).length - telemetryHeaderSize
      = (content.records.flatMap Record.encode ++ rest).length := by
    rw [encode, List.append_assoc, List.length_append]
    exact Nat.add_sub_cancel_left _ _
  rw [hbody, hdiv, hmod]
  refine ⟨rfl, ?_⟩
  rw [List.length_append, Nat.add_sub_cancel, List.take_left]

/-- Reading fails for want of a header or of a record size, and never on a record. -/
theorem decode_eq_error_iff {layout : RecordLayout} {bytes : Bytes} {err : TelemetryError} :
    decode layout bytes = .error err ↔
      (bytes.length < telemetryHeaderSize ∧ err = .malformedElement 0 .headerTruncated) ∨
        (telemetryHeaderSize ≤ bytes.length ∧ layout.recordSize = 0 ∧
          err = .layoutMismatch 0 (bytes.length - telemetryHeaderSize)) := by
  by_cases hshort : bytes.length < telemetryHeaderSize
  · rw [decode_of_short hshort]
    simp [hshort, Nat.not_le_of_lt hshort, eq_comm]
  · by_cases hsize : layout.recordSize = 0
    · rw [decode_of_recordSize_eq_zero hsize (Nat.le_of_not_lt hshort)]
      simp [hshort, Nat.le_of_not_lt hshort, hsize, eq_comm]
    · obtain ⟨content, hcontent⟩ :=
        exists_decode (Nat.pos_of_ne_zero hsize) (Nat.le_of_not_lt hshort)
      simp [hcontent, hshort, hsize]

/-- **Content is read as it was written and written as it was read.** Content of a layout takes the
bytes it is said to take, and reading gives it back whatever piece of a record follows. Any four
bytes or more are content: as many records as fit behind the header, all of the layout, which are the
bytes that were read up to the piece left over. Reading fails for want of a header or of a record
size, never on a record; and a single record is any piece of the record's size. -/
theorem decode_inverts_encode (layout : RecordLayout) :
    (0 < layout.recordSize →
      (∀ content : TelemetryContent,
        (∀ record ∈ content.records, record.hasLayout layout = true) →
          content.encode.length = content.encodedLength ∧
            ∀ rest : Bytes, rest.length < layout.recordSize →
              decode layout (content.encode ++ rest) = .ok content) ∧
        ∀ bytes : Bytes, (∃ content, decode layout bytes = .ok content) ↔ 4 ≤ bytes.length) ∧
      (∀ (bytes : Bytes) (content : TelemetryContent), decode layout bytes = .ok content →
        content.records.length = (bytes.length - 4) / layout.recordSize ∧
          (∀ record ∈ content.records, record.hasLayout layout = true) ∧
            content.encode
              = bytes.take (bytes.length - (bytes.length - 4) % layout.recordSize)) ∧
      (∀ (bytes : Bytes) (err : TelemetryError), decode layout bytes = .error err ↔
        (bytes.length < 4 ∧ err = .malformedElement 0 .headerTruncated) ∨
          (4 ≤ bytes.length ∧ layout.recordSize = 0 ∧
            err = .layoutMismatch 0 (bytes.length - 4))) ∧
      (∀ bytes : Bytes,
        (∃ record, Record.decode layout bytes = .ok record) ↔ bytes.length = layout.recordSize) ∧
      ∀ (bytes : Bytes) (record : Record), Record.decode layout bytes = .ok record →
        record.encode = bytes := by
  refine ⟨fun hsize => ⟨fun content hlayout => ⟨content.encode_length, ?_⟩, ?_⟩, ?_, ?_, ?_, ?_⟩
  · intro rest hrest
    exact decode_encode_append hlayout hrest
  · intro bytes
    exact exists_decode_iff hsize
  · intro bytes content h
    obtain ⟨hcount, hencode⟩ := encode_of_decode h
    exact ⟨hcount, hasLayout_of_decode h, hencode⟩
  · intro bytes err
    exact decode_eq_error_iff
  · intro bytes
    exact Record.exists_decode_iff
  · intro bytes record h
    exact (Record.decode_eq_ok_iff.mp h).2

/-- Two samples and two bytes of a third. -/
theorem decode_inverts_encode_twoSamples :
    let content : TelemetryContent :=
      ⟨.fresh 0x2A 0xA0 0xFF, [.sample (.ofParts 1 0 9 (-40)), .sample (.ofParts 0x203 15 4095 7)]⟩
    0 < RecordLayout.sample.recordSize ∧
      content.encode ++ [1, 2]
        = [0x2A, 0xA0, 0, 0xFF, 1, 0, 9, 0, 0xD8, 3, 2, 0xFF, 0xFF, 7, 1, 2] ∧
        content.encodedLength = 14 ∧ decode .sample (content.encode ++ [1, 2]) = .ok content := by
  intro content
  have hsize : 0 < RecordLayout.sample.recordSize := by decide
  have hlayout : ∀ record ∈ content.records, record.hasLayout .sample = true := by decide +kernel
  obtain ⟨hreads, _⟩ := decode_inverts_encode .sample
  obtain ⟨hwritten, _⟩ := hreads hsize
  obtain ⟨_, hread⟩ := hwritten content hlayout
  exact ⟨hsize, by decide +kernel, by decide +kernel, hread [1, 2] (by decide)⟩

end TelemetryContent

end MeshTelemetry
