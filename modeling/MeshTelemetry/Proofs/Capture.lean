import MeshTelemetry.Capture
import MeshTelemetry.Proofs.Bytes

/-!
# What a capture holds

A capture is read by position: a frame's header has sixteen bytes, and one of its fields says how
many bytes of the frame follow. The reader here takes nothing on trust. It fails where bytes are
missing and where some are left over, so that what it reads is all that there is. Reading goes on
behind a frame as it would from the start, hence recording a frame adds one entry to what a capture
holds and leaves those before it as they were.
-/

namespace MeshTelemetry

/-- The little-endian number of `width` bytes at this offset. -/
def numberAt (offset width : Nat) (bytes : Bytes) : Nat :=
  natOfBytesLE ((bytes.drop offset).take width)

structure CaptureFormat where
  magic : Nat
  versionMajor : Nat
  versionMinor : Nat
  zone : Nat
  accuracy : Nat
  snapLength : Nat
  linkType : Nat
  deriving DecidableEq, Repr

structure CaptureEntry where
  stamp : Timestamp
  frame : CapturedFrame
  deriving DecidableEq, Repr

structure CaptureFile where
  format : CaptureFormat
  entries : List CaptureEntry
  deriving DecidableEq, Repr

/-- The format of the captures that are written here. -/
def CaptureFormat.written : CaptureFormat := ⟨0xA1B2C3D4, 2, 4, 0, 0, 127, 230⟩

def CaptureFormat.ofHeader (header : Bytes) : CaptureFormat where
  magic := numberAt 0 4 header
  versionMajor := numberAt 4 2 header
  versionMinor := numberAt 6 2 header
  zone := numberAt 8 4 header
  accuracy := numberAt 12 4 header
  snapLength := numberAt 16 4 header
  linkType := numberAt 20 4 header

namespace CaptureEntry

def ofHeader (header data : Bytes) : CaptureEntry where
  stamp := ⟨.ofNat (numberAt 0 4 header), .ofNat (numberAt 4 4 header)⟩
  frame := ⟨numberAt 8 4 header, numberAt 12 4 header, data⟩

/-- What a capture is to hold of a frame: its first 127 bytes and its length, which is capped at the
greatest 32-bit number. -/
def ofFrame (stamp : Timestamp) (frame : Bytes) : CaptureEntry :=
  ⟨stamp, min frame.length 127, min frame.length (2 ^ 32 - 1), frame.take 127⟩

/-- The entries of frames that were captured one after another at these times. Once there are no
times left it is zero. -/
def ofFrames : List Timestamp → List Bytes → List CaptureEntry
  | _, [] => []
  | stamps, frame :: frames => ofFrame (stamps.headD ⟨0, 0⟩) frame :: ofFrames stamps.tail frames

/-- The first entry and the bytes behind it. -/
def read? (bytes : Bytes) : Option (CaptureEntry × Bytes) := do
  let (header, behind) ← splitExactly 16 bytes
  let (data, rest) ← splitExactly (numberAt 8 4 header) behind
  return (ofHeader header data, rest)

theorem read?_eq_some_iff {bytes rest : Bytes} {entry : CaptureEntry} :
    read? bytes = some (entry, rest) ↔
      ∃ header data, header.length = 16 ∧ data.length = numberAt 8 4 header ∧
        bytes = header ++ (data ++ rest) ∧ entry = ofHeader header data := by
  unfold read?
  constructor
  · intro h
    obtain ⟨⟨header, behind⟩, hheader, h⟩ := Option.bind_eq_some_iff.mp h
    obtain ⟨⟨data, left⟩, hdata, h⟩ := Option.bind_eq_some_iff.mp h
    cases h
    obtain ⟨rfl, hsixteen⟩ := splitExactly_eq_some_iff.mp hheader
    obtain ⟨rfl, hlength⟩ := splitExactly_eq_some_iff.mp hdata
    exact ⟨header, data, hsixteen, hlength, rfl, rfl⟩
  · rintro ⟨header, data, hsixteen, hlength, rfl, rfl⟩
    have hheader : splitExactly 16 (header ++ (data ++ rest)) = some (header, data ++ rest) :=
      splitExactly_eq_some_iff.mpr ⟨rfl, hsixteen⟩
    have hdata : splitExactly (numberAt 8 4 header) (data ++ rest) = some (data, rest) :=
      splitExactly_eq_some_iff.mpr ⟨rfl, hlength⟩
    exact Option.bind_eq_some_iff.mpr ⟨_, hheader, Option.bind_eq_some_iff.mpr ⟨_, hdata, rfl⟩⟩

theorem read?_rest_length_lt {bytes rest : Bytes} {entry : CaptureEntry}
    (h : read? bytes = some (entry, rest)) : rest.length < bytes.length := by
  obtain ⟨header, data, hsixteen, _, rfl, _⟩ := read?_eq_some_iff.mp h
  simp only [List.length_append]
  omega

theorem read?_append {bytes rest : Bytes} {entry : CaptureEntry}
    (h : read? bytes = some (entry, rest)) (more : Bytes) :
    read? (bytes ++ more) = some (entry, rest ++ more) := by
  obtain ⟨header, data, hsixteen, hlength, rfl, hentry⟩ := read?_eq_some_iff.mp h
  refine read?_eq_some_iff.mpr ⟨header, data, hsixteen, hlength, ?_, hentry⟩
  simp only [List.append_assoc]

/-- All entries, unless some bytes make none. -/
def readAll? (bytes : Bytes) : Option (List CaptureEntry) :=
  if bytes = [] then some []
  else
    match hread : read? bytes with
    | none => none
    | some (entry, rest) =>
      have := read?_rest_length_lt hread
      (readAll? rest).map (entry :: ·)
termination_by bytes.length

theorem readAll?_nil : readAll? [] = some [] := by
  rw [readAll?, if_pos rfl]

theorem readAll?_eq_some_cons_iff {bytes : Bytes} {entry : CaptureEntry}
    {entries : List CaptureEntry} :
    readAll? bytes = some (entry :: entries) ↔
      ∃ rest, read? bytes = some (entry, rest) ∧ readAll? rest = some entries := by
  rw [readAll?]
  split
  · rename_i hnil
    subst hnil
    constructor
    · intro h
      cases h
    · rintro ⟨rest, hread, _⟩
      exact absurd (read?_rest_length_lt hread) (Nat.not_lt_zero _)
  · split
    · rename_i hread
      simp [hread]
    · rename_i first rest hread
      simp only [hread, Option.map_eq_some_iff]
      constructor
      · rintro ⟨_, hrest, hcons⟩
        cases hcons
        exact ⟨rest, rfl, hrest⟩
      · rintro ⟨_, hsome, hrest⟩
        cases hsome
        exact ⟨entries, hrest, rfl⟩

theorem eq_nil_of_readAll? {bytes : Bytes} (h : readAll? bytes = some []) : bytes = [] := by
  rw [readAll?] at h
  split at h
  · assumption
  · split at h
    · cases h
    · simp at h

/-- Reading goes on behind some entries as it would from the start. -/
theorem readAll?_append {bytes more : Bytes} {entries others : List CaptureEntry}
    (h : readAll? bytes = some entries) (hmore : readAll? more = some others) :
    readAll? (bytes ++ more) = some (entries ++ others) := by
  induction entries generalizing bytes with
  | nil =>
    rw [eq_nil_of_readAll? h]
    exact hmore
  | cons entry entries ih =>
    obtain ⟨rest, hread, hrest⟩ := readAll?_eq_some_cons_iff.mp h
    exact readAll?_eq_some_cons_iff.mpr ⟨_, read?_append hread more, ih hrest⟩

end CaptureEntry

/-- The whole capture, unless bytes are missing or left over. -/
def CaptureFile.read? (bytes : Bytes) : Option CaptureFile := do
  let (header, rest) ← splitExactly 24 bytes
  let entries ← CaptureEntry.readAll? rest
  return ⟨.ofHeader header, entries⟩

theorem CaptureFile.read?_eq_some_iff {bytes : Bytes} {file : CaptureFile} :
    read? bytes = some file ↔
      ∃ header rest, header.length = 24 ∧ bytes = header ++ rest ∧
        file.format = .ofHeader header ∧ CaptureEntry.readAll? rest = some file.entries := by
  unfold read?
  constructor
  · intro h
    obtain ⟨⟨header, rest⟩, hheader, h⟩ := Option.bind_eq_some_iff.mp h
    obtain ⟨entries, hentries, h⟩ := Option.bind_eq_some_iff.mp h
    cases h
    obtain ⟨rfl, hlength⟩ := splitExactly_eq_some_iff.mp hheader
    exact ⟨header, rest, hlength, rfl, rfl, hentries⟩
  · obtain ⟨format, entries⟩ := file
    rintro ⟨header, rest, hlength, rfl, rfl, hentries⟩
    have hheader : splitExactly 24 (header ++ rest) = some (header, rest) :=
      splitExactly_eq_some_iff.mpr ⟨rfl, hlength⟩
    exact Option.bind_eq_some_iff.mpr ⟨_, hheader, Option.bind_eq_some_iff.mpr ⟨_, hentries, rfl⟩⟩

theorem CaptureFile.read?_append {bytes more : Bytes} {file : CaptureFile}
    {others : List CaptureEntry} (h : read? bytes = some file)
    (hmore : CaptureEntry.readAll? more = some others) :
    read? (bytes ++ more) = some ⟨file.format, file.entries ++ others⟩ := by
  obtain ⟨header, rest, hlength, rfl, hformat, hentries⟩ := read?_eq_some_iff.mp h
  refine read?_eq_some_iff.mpr ⟨header, rest ++ more, hlength, ?_, hformat, ?_⟩
  · rw [List.append_assoc]
  · exact CaptureEntry.readAll?_append hentries hmore

theorem CaptureFile.read?_captureHeader : read? captureHeader = some ⟨.written, []⟩ :=
  read?_eq_some_iff.mpr ⟨captureHeader, [], rfl, rfl, by decide, CaptureEntry.readAll?_nil⟩

/-! ### Reading without a check

The plain reader cuts the last frame short where bytes are missing and passes over a rest that is no
frame. On a capture that is whole it reads the same frames. -/

theorem capturedFrames_of_readAll? {bytes : Bytes} {entries : List CaptureEntry}
    (h : CaptureEntry.readAll? bytes = some entries) :
    capturedFrames bytes = entries.map CaptureEntry.frame := by
  induction entries generalizing bytes with
  | nil =>
    rw [CaptureEntry.eq_nil_of_readAll? h, capturedFrames]
    rfl
  | cons entry entries ih =>
    obtain ⟨rest, hread, hrest⟩ := CaptureEntry.readAll?_eq_some_cons_iff.mp h
    obtain ⟨header, data, hsixteen, hlength, rfl, rfl⟩ := CaptureEntry.read?_eq_some_iff.mp hread
    have hsplit : splitExactly 16 (header ++ (data ++ rest)) = some (header, data ++ rest) :=
      splitExactly_eq_some_iff.mpr ⟨rfl, hsixteen⟩
    have hlast : (header.drop 12).take 4 = header.drop 12 := by
      apply List.take_of_length_le
      rw [List.length_drop]
      omega
    rw [numberAt] at hlength
    rw [capturedFrames]
    split
    · rename_i hnone
      rw [hsplit] at hnone
      cases hnone
    · rename_i found behind hsome
      rw [hsplit] at hsome
      cases hsome
      simp only [← hlength, List.take_left, List.drop_left, ih hrest, List.map_cons,
        CaptureEntry.ofHeader, numberAt, hlast]

theorem readCapture_of_read? {bytes : Bytes} {file : CaptureFile}
    (h : CaptureFile.read? bytes = some file) :
    (readCapture bytes).2 = file.entries.map CaptureEntry.frame := by
  obtain ⟨header, rest, hlength, rfl, _, hentries⟩ := CaptureFile.read?_eq_some_iff.mp h
  rw [readCapture, List.drop_left' hlength]
  exact capturedFrames_of_readAll? hentries

/-! ### Recording -/

theorem numberAt_bytesLE {front rest : Bytes} {offset width value : Nat}
    (hfront : front.length = offset) (hvalue : value < 256 ^ width) :
    numberAt offset width (front ++ (bytesLE width value ++ rest)) = value := by
  rw [numberAt, List.drop_left' hfront, List.take_left' (bytesLE_length width value),
    natOfBytesLE_bytesLE, Nat.mod_eq_of_lt hvalue]

theorem frameHeader_length (stamp : Timestamp) (length : Nat) :
    (frameHeader stamp length).length = 16 := by
  simp only [frameHeader, List.length_append, bytesLE_length]

/-- The four fields of a frame's header stand one behind the other. -/
theorem ofHeader_frameHeader (stamp : Timestamp) (frame : Bytes) :
    CaptureEntry.ofHeader (frameHeader stamp frame.length) (frame.take snapLength)
      = .ofFrame stamp frame := by
  have hsnap : min frame.length snapLength < 256 ^ 4 :=
    Nat.lt_of_le_of_lt (Nat.min_le_right _ _) (by decide)
  have hlength : min frame.length maxWord32 < 256 ^ 4 :=
    Nat.lt_of_le_of_lt (Nat.min_le_right _ _) (by decide)
  have hseconds := @numberAt_bytesLE [] (bytesLE 4 stamp.microseconds.toNat ++
    (bytesLE 4 (min frame.length snapLength) ++ bytesLE 4 (min frame.length maxWord32))) 0 4
    stamp.seconds.toNat rfl stamp.seconds.toNat_lt
  have hmicroseconds := @numberAt_bytesLE (bytesLE 4 stamp.seconds.toNat)
    (bytesLE 4 (min frame.length snapLength) ++ bytesLE 4 (min frame.length maxWord32)) 4 4
    stamp.microseconds.toNat (bytesLE_length 4 _) stamp.microseconds.toNat_lt
  have hcaptured := @numberAt_bytesLE
    (bytesLE 4 stamp.seconds.toNat ++ bytesLE 4 stamp.microseconds.toNat)
    (bytesLE 4 (min frame.length maxWord32)) 8 4 _ rfl hsnap
  have hwhole := @numberAt_bytesLE
    (bytesLE 4 stamp.seconds.toNat ++ bytesLE 4 stamp.microseconds.toNat ++
      bytesLE 4 (min frame.length snapLength)) [] 12 4 _ rfl hlength
  simp only [List.nil_append, List.append_nil, List.append_assoc]
    at hseconds hmicroseconds hcaptured hwhole
  simp only [CaptureEntry.ofHeader, frameHeader, List.append_assoc, hseconds, hmicroseconds,
    hcaptured, hwhole, UInt32.ofNat_toNat]
  rfl

/-- The two writes of a frame are read as one entry, be the frame shorter than what is captured of a
frame or longer. -/
theorem readAll?_frame (stamp : Timestamp) (frame : Bytes) :
    CaptureEntry.readAll? (frameHeader stamp frame.length ++ frame.take snapLength)
      = some [.ofFrame stamp frame] := by
  have hentry := ofHeader_frameHeader stamp frame
  have hcaptured : numberAt 8 4 (frameHeader stamp frame.length) = min frame.length 127 :=
    congrArg (fun entry => entry.frame.captured) hentry
  refine CaptureEntry.readAll?_eq_some_cons_iff.mpr ⟨[], ?_, CaptureEntry.readAll?_nil⟩
  refine CaptureEntry.read?_eq_some_iff.mpr
    ⟨_, frame.take snapLength, frameHeader_length _ _, ?_, ?_, hentry.symm⟩
  · rw [hcaptured, List.length_take, Nat.min_comm]
    rfl
  · rw [List.append_nil]

theorem Sink.write_of_unlimited {sink : Sink} (h : sink.limit = none) (bytes : Bytes) :
    sink.write bytes = .ok { sink with bytes := sink.bytes ++ bytes } := by
  apply if_pos
  simp [hasRoomFor, h]

namespace Recorder

/-- The sink refuses nothing, and what it holds is a capture with these entries and no more. -/
structure Holds (recorder : Recorder) (entries : List CaptureEntry) : Prop where
  unlimited : recorder.sink.limit = none
  reads : CaptureFile.read? recorder.sink.bytes = some ⟨.written, entries⟩

/-- Captures frames one after another, with what became of each. -/
def recordAll (recorder : Recorder) : List Bytes → List (Except CaptureError Unit) × Recorder
  | [] => ([], recorder)
  | frame :: frames =>
    ((recorder.record frame).1 :: ((recorder.record frame).2.recordAll frames).1,
      ((recorder.record frame).2.recordAll frames).2)

theorem start_holds (stamps : List Timestamp) :
    ∃ started, start {} = .ok started ∧ Holds { started with stamps := stamps } [] :=
  ⟨{ sink := { bytes := captureHeader } }, rfl, rfl, CaptureFile.read?_captureHeader⟩

section

variable {recorder : Recorder} {entries : List CaptureEntry}

/-- One frame is one entry more. -/
theorem Holds.record (h : recorder.Holds entries) (frame : Bytes) :
    ∃ next, recorder.record frame = (.ok (), next) ∧ next.stamps = recorder.stamps.tail ∧
      next.Holds (entries ++ [.ofFrame (recorder.stamps.headD ⟨0, 0⟩) frame]) := by
  let header := frameHeader (recorder.stamps.headD ⟨0, 0⟩) frame.length
  let begun : Sink := { recorder.sink with bytes := recorder.sink.bytes ++ header }
  have hheader : recorder.sink.write header = .ok begun :=
    Sink.write_of_unlimited h.unlimited header
  have hdata := @Sink.write_of_unlimited begun h.unlimited (frame.take snapLength)
  unfold Recorder.record
  simp only [header] at hheader
  simp only [hheader, hdata]
  refine ⟨_, rfl, rfl, h.unlimited, ?_⟩
  rw [List.append_assoc]
  exact CaptureFile.read?_append h.reads (readAll?_frame _ frame)

/-- Many frames are as many entries more, in their order, and none is refused. -/
theorem Holds.recordAll (h : recorder.Holds entries) (frames : List Bytes) :
    (recorder.recordAll frames).1 = frames.map (fun _ => .ok ()) ∧
      (recorder.recordAll frames).2.Holds
        (entries ++ CaptureEntry.ofFrames recorder.stamps frames) := by
  induction frames generalizing recorder entries with
  | nil => exact ⟨rfl, by rwa [CaptureEntry.ofFrames, List.append_nil]⟩
  | cons frame frames ih =>
    obtain ⟨next, hrecord, hstamps, hnext⟩ := h.record frame
    obtain ⟨hresults, hheld⟩ := ih hnext
    rw [Recorder.recordAll, hrecord]
    refine ⟨?_, ?_⟩
    · rw [hresults, List.map_cons]
    · rwa [hstamps, List.append_assoc] at hheld

theorem recordAll_append (recorder : Recorder) (frames others : List Bytes) :
    (recorder.recordAll (frames ++ others)).2
      = ((recorder.recordAll frames).2.recordAll others).2 := by
  induction frames generalizing recorder with
  | nil => rfl
  | cons frame frames ih => exact ih (recorder.record frame).2

end

end Recorder

end MeshTelemetry
