import MeshTelemetry.Bytes

/-!
# Captures

A capture is a file of frames for a packet analyser: a global header, then each frame behind a
header of its own that holds a timestamp, the number of bytes captured and the frame's length.
Frames are cut at `snapLength`. A sink may refuse a write, and then holds nothing of it; a frame
whose bytes are refused leaves its header in the sink.
-/

namespace MeshTelemetry

/-- The most that is captured of a frame. -/
def snapLength : Nat := 127

/-- Frames of IEEE 802.15.4 without a checksum. -/
def linkType : Nat := 230

def maxWord32 : Nat := 0xFFFFFFFF

inductive CaptureError where
  | sinkFull
  deriving DecidableEq, Repr

def CaptureError.message : CaptureError → String
  | .sinkFull => "sink full"

structure Timestamp where
  seconds : UInt32
  microseconds : UInt32
  deriving DecidableEq, Repr

structure Sink where
  limit : Option Nat := none
  bytes : Bytes := []
  deriving DecidableEq, Repr

/-- Whether so many bytes more stay within the limit. -/
def Sink.hasRoomFor (sink : Sink) (count : Nat) : Bool :=
  match sink.limit with
  | some limit => sink.bytes.length + count ≤ limit
  | none => true

/-- Appends the bytes or refuses them as a whole. Without bytes nothing is written. -/
def Sink.write (sink : Sink) (bytes : Bytes) : Except CaptureError Sink :=
  if bytes.isEmpty || sink.hasRoomFor bytes.length then
    .ok { sink with bytes := sink.bytes ++ bytes }
  else .error .sinkFull

/-- The global header: byte order mark, version 2.4, two unused words, snap length, link type. -/
def captureHeader : Bytes :=
  bytesLE 4 0xA1B2C3D4 ++ bytesLE 2 2 ++ bytesLE 2 4 ++ bytesLE 8 0 ++ bytesLE 4 snapLength ++
    bytesLE 4 linkType

def frameHeader (stamp : Timestamp) (length : Nat) : Bytes :=
  bytesLE 4 stamp.seconds.toNat ++ bytesLE 4 stamp.microseconds.toNat ++
    bytesLE 4 (min length snapLength) ++ bytesLE 4 (min length maxWord32)

/-- A capture in progress, and the times at which its coming frames will be captured. -/
structure Recorder where
  sink : Sink
  stamps : List Timestamp := []
  deriving DecidableEq, Repr

namespace Recorder

def start (sink : Sink) : Except CaptureError Recorder := do
  return { sink := ← sink.write captureHeader }

/-- Appends a frame, header and bytes in one write each. -/
def record (recorder : Recorder) (frame : Bytes) : Except CaptureError Unit × Recorder :=
  let stamp := recorder.stamps.headD ⟨0, 0⟩
  let recorder := { recorder with stamps := recorder.stamps.tail }
  match recorder.sink.write (frameHeader stamp frame.length) with
  | .error err => (.error err, recorder)
  | .ok sink =>
    match sink.write (frame.take snapLength) with
    | .error err => (.error err, { recorder with sink := sink })
    | .ok full => (.ok (), { recorder with sink := full })

end Recorder

structure CapturedFrame where
  captured : Nat
  /-- The length of the frame as it was sent. -/
  length : Nat
  data : Bytes
  deriving DecidableEq, Repr

/-- Reads frames until fewer bytes are left than a frame's header has. -/
def capturedFrames (bytes : Bytes) : List CapturedFrame :=
  match hsplit : splitExactly 16 bytes with
  | none => []
  | some (header, rest) =>
    have := splitExactly_rest_length hsplit
    let captured := natOfBytesLE ((header.drop 8).take 4)
    ⟨captured, natOfBytesLE (header.drop 12), rest.take captured⟩ ::
      capturedFrames (rest.drop captured)
termination_by bytes.length
decreasing_by
  simp only [List.length_drop]
  omega

def readCapture (bytes : Bytes) : Bytes × List CapturedFrame :=
  (bytes.take 24, capturedFrames (bytes.drop 24))

end MeshTelemetry
