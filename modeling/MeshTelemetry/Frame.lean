import MeshTelemetry.Bytes

/-!
# Frames

A frame is a link header and one stretch of bytes behind it. The stretch has three regions: free
room in front, the header region, which grows into the room, and the data. Telemetry never looks
into the link header; it needs the frame's length, room to write elements, and on receipt the data.
Consuming moves bytes from the front of the data to the header region without moving them in memory.
-/

namespace MeshTelemetry

/-- The room in front of an outgoing frame, a whole frame's worth. -/
def defaultHeaderRoom : Nat := 127

inductive FrameKind where
  | data
  | broadcast
  | routingControl
  | scheduleControl
  deriving DecidableEq, Repr

/-- Telemetry travels on unicast data only. -/
def FrameKind.carriesTelemetry : FrameKind → Bool
  | .data => true
  | .broadcast | .routingControl | .scheduleControl => false

structure Frame where
  kind : FrameKind
  linkHeader : Bytes
  storage : Bytes
  /-- Where the header region starts in the storage; all before it is room. -/
  headerStart : Nat
  /-- Where the header region ends and the data starts. -/
  dataStart : Nat
  /-- Whether the link header announces a list of elements. -/
  hasElements : Bool
  deriving DecidableEq, Repr

namespace Frame

def withHeaderRoom (kind : FrameKind) (linkHeader payload : Bytes) (room : Nat) : Frame where
  kind := kind
  linkHeader := linkHeader
  storage := List.replicate room 0 ++ payload
  headerStart := room
  dataStart := room
  hasElements := false

def outgoing (kind : FrameKind) (linkHeader payload : Bytes) : Frame :=
  withHeaderRoom kind linkHeader payload defaultHeaderRoom

/-- A frame as it arrives: everything behind the link header is data. -/
def incoming (kind : FrameKind) (linkHeader : Bytes) (hasElements : Bool) (body : Bytes) :
    Frame where
  kind := kind
  linkHeader := linkHeader
  storage := body
  headerStart := 0
  dataStart := 0
  hasElements := hasElements

def room (frame : Frame) : Nat := frame.headerStart

def header (frame : Frame) : Bytes :=
  (frame.storage.drop frame.headerStart).take (frame.dataStart - frame.headerStart)

def data (frame : Frame) : Bytes := frame.storage.drop frame.dataStart

/-- Header region and data. -/
def body (frame : Frame) : Bytes := frame.storage.drop frame.headerStart

/-- The frame as it is sent. -/
def wire (frame : Frame) : Bytes := frame.linkHeader ++ frame.body

/-- What is captured of the frame. A frame in memory can always be captured whole. -/
def snapshot (frame : Frame) : Option Bytes := some frame.wire

def length (frame : Frame) : Nat :=
  frame.linkHeader.length + frame.storage.length - frame.headerStart

/-- What a neighbour receives when the frame is sent. -/
def received (frame : Frame) : Frame :=
  incoming frame.kind frame.linkHeader frame.hasElements frame.body

/-- Grows the header region by `count` bytes towards the front, if there is room, and shows what
they hold. -/
def allocHeader? (frame : Frame) (count : Nat) : Option (Bytes × Frame) :=
  if count ≤ frame.headerStart then
    let grown := { frame with headerStart := frame.headerStart - count }
    some (grown.body.take count, grown)
  else none

def writeHeader (frame : Frame) (bytes : Bytes) : Frame :=
  { frame with
    storage := frame.storage.take frame.headerStart ++ bytes ++
      frame.storage.drop (frame.headerStart + bytes.length) }

/-- Moves `count` bytes from the data to the header region, if there are so many. -/
def consume? (frame : Frame) (count : Nat) : Option Frame :=
  if count ≤ frame.storage.length - frame.dataStart then
    some { frame with dataStart := frame.dataStart + count }
  else none

def setHasElements (frame : Frame) (hasElements : Bool) : Frame :=
  { frame with hasElements := hasElements }

end Frame

end MeshTelemetry
