import MeshTelemetry.Proofs.Frame

/-!
# A frame as its regions

A frame keeps its room, its header region and its data in one storage and tells them apart by two
indices. Seen from outside it is four byte strings that know nothing of each other's place. The
frame of given regions is determined by them, its room being all zeros, and every operation leads
from the frame of some regions to the frame of others. So no run can bring the indices out of order
or show in a grown header what had been data before.
-/

namespace MeshTelemetry

structure FrameRegions where
  kind : FrameKind
  linkHeader : Bytes
  room : Nat
  header : Bytes
  data : Bytes
  hasElements : Bool

/-- What can be asked of a frame. A header region that was grown is written at once. -/
inductive FrameCall where
  | allocate (written : Bytes)
  | consume (count : Nat)
  | announce (hasElements : Bool)
  | receive

inductive FrameAnswer where
  /-- What the new bytes of the header region held, if it could grow. -/
  | allocated (shown : Option Bytes)
  | consumed (moved : Bool)
  | done

namespace FrameRegions

def perform (regions : FrameRegions) : FrameCall → FrameAnswer × FrameRegions
  | .allocate written =>
    if written.length ≤ regions.room then
      (.allocated (some (List.replicate written.length 0)),
        { regions with
          room := regions.room - written.length
          header := written ++ regions.header })
    else (.allocated none, regions)
  | .consume count =>
    if count ≤ regions.data.length then
      (.consumed true,
        { regions with
          header := regions.header ++ regions.data.take count
          data := regions.data.drop count })
    else (.consumed false, regions)
  | .announce hasElements => (.done, { regions with hasElements := hasElements })
  | .receive =>
    (.done, { regions with room := 0, header := [], data := regions.header ++ regions.data })

def run (regions : FrameRegions) : List FrameCall → List FrameAnswer × FrameRegions
  | [] => ([], regions)
  | call :: calls =>
    let (answer, next) := regions.perform call
    let (answers, final) := next.run calls
    (answer :: answers, final)

/-- The frame that holds these regions one behind the other. -/
def frame (regions : FrameRegions) : Frame where
  kind := regions.kind
  linkHeader := regions.linkHeader
  storage := List.replicate regions.room 0 ++ (regions.header ++ regions.data)
  headerStart := regions.room
  dataStart := regions.room + regions.header.length
  hasElements := regions.hasElements

end FrameRegions

namespace Frame

def perform (frame : Frame) : FrameCall → FrameAnswer × Frame
  | .allocate written =>
    match frame.allocHeader? written.length with
    | some (shown, grown) => (.allocated (some shown), grown.writeHeader written)
    | none => (.allocated none, frame)
  | .consume count =>
    match frame.consume? count with
    | some next => (.consumed true, next)
    | none => (.consumed false, frame)
  | .announce hasElements => (.done, frame.setHasElements hasElements)
  | .receive => (.done, frame.received)

def run (frame : Frame) : List FrameCall → List FrameAnswer × Frame
  | [] => ([], frame)
  | call :: calls =>
    let (answer, next) := frame.perform call
    let (answers, final) := next.run calls
    (answer :: answers, final)

/-- The frame looks like these regions from outside, and no length of it falls below zero. -/
structure Shows (frame : Frame) (regions : FrameRegions) : Prop where
  kind : frame.kind = regions.kind
  linkHeader : frame.linkHeader = regions.linkHeader
  hasElements : frame.hasElements = regions.hasElements
  room : frame.room = regions.room
  header : frame.header = regions.header
  data : frame.data = regions.data
  body : frame.body = regions.header ++ regions.data
  wire : frame.wire = regions.linkHeader ++ (regions.header ++ regions.data)
  snapshot : frame.snapshot = some frame.wire
  length : frame.length = frame.wire.length
  wellFormed : frame.WellFormed

end Frame

/-- The ways to make a frame. -/
inductive FrameSource where
  | outgoing (kind : FrameKind) (linkHeader payload : Bytes)
  | withHeaderRoom (kind : FrameKind) (linkHeader payload : Bytes) (room : Nat)
  | incoming (kind : FrameKind) (linkHeader : Bytes) (hasElements : Bool) (body : Bytes)

namespace FrameSource

def frame : FrameSource → Frame
  | outgoing kind linkHeader payload => .outgoing kind linkHeader payload
  | withHeaderRoom kind linkHeader payload room => .withHeaderRoom kind linkHeader payload room
  | incoming kind linkHeader hasElements body => .incoming kind linkHeader hasElements body

def regions : FrameSource → FrameRegions
  | outgoing kind linkHeader payload => ⟨kind, linkHeader, defaultHeaderRoom, [], payload, false⟩
  | withHeaderRoom kind linkHeader payload room => ⟨kind, linkHeader, room, [], payload, false⟩
  | incoming kind linkHeader hasElements body => ⟨kind, linkHeader, 0, [], body, hasElements⟩

theorem frame_eq (source : FrameSource) : source.frame = source.regions.frame := by
  cases source with
  | outgoing | withHeaderRoom | incoming => rfl

end FrameSource

namespace FrameRegions

variable (regions : FrameRegions)

theorem body_frame : regions.frame.body = regions.header ++ regions.data := by
  apply List.drop_left'
  exact List.length_replicate

theorem header_frame : regions.frame.header = regions.header := by
  have hcount : regions.frame.dataStart - regions.frame.headerStart = regions.header.length :=
    Nat.add_sub_cancel_left _ _
  have hbody := regions.body_frame
  unfold Frame.body at hbody
  rw [Frame.header, hcount, hbody, List.take_left]

theorem data_frame : regions.frame.data = regions.data := by
  have hbody := regions.body_frame
  unfold Frame.body at hbody
  change regions.frame.storage.drop (regions.frame.headerStart + regions.header.length) = _
  rw [← List.drop_drop, hbody, List.drop_left]

theorem wellFormed_frame : regions.frame.WellFormed where
  header_le := Nat.le_add_right _ _
  data_le := by
    simp only [frame, List.length_append, List.length_replicate]
    omega

theorem length_frame : regions.frame.length = regions.frame.wire.length := by
  simp only [Frame.length, Frame.wire, Frame.body, List.length_append, List.length_drop]
  have hstart : regions.frame.headerStart ≤ regions.frame.storage.length :=
    Nat.le_trans regions.wellFormed_frame.header_le regions.wellFormed_frame.data_le
  omega

theorem shows_frame : regions.frame.Shows regions where
  kind := rfl
  linkHeader := rfl
  hasElements := rfl
  room := rfl
  header := regions.header_frame
  data := regions.data_frame
  body := regions.body_frame
  wire := congrArg (regions.linkHeader ++ ·) regions.body_frame
  snapshot := rfl
  length := regions.length_frame
  wellFormed := regions.wellFormed_frame

/-- The end of the room, which a header region of this length grows into. -/
theorem drop_storage {count : Nat} (hroom : count ≤ regions.room) :
    regions.frame.storage.drop (regions.room - count)
      = List.replicate count 0 ++ (regions.header ++ regions.data) := by
  have hsplit : List.replicate regions.room (0 : UInt8)
      = List.replicate (regions.room - count) 0 ++ List.replicate count 0 := by
    rw [List.replicate_append_replicate, Nat.sub_add_cancel hroom]
  change (List.replicate regions.room 0 ++ _).drop _ = _
  rw [hsplit, List.append_assoc]
  exact List.drop_left' List.length_replicate

theorem allocHeader?_frame {count : Nat} (hroom : count ≤ regions.room) :
    regions.frame.allocHeader? count
      = some (List.replicate count 0,
          { regions.frame with headerStart := regions.room - count }) := by
  apply Frame.allocHeader?_eq_some_iff.mpr
  refine ⟨hroom, rfl, ?_⟩
  change _ = (regions.frame.storage.drop (regions.room - count)).take count
  rw [regions.drop_storage hroom]
  exact (List.take_left' List.length_replicate).symm

theorem writeHeader_frame {written : Bytes} (hroom : written.length ≤ regions.room) :
    Frame.writeHeader { regions.frame with headerStart := regions.room - written.length } written
      = frame { regions with
          room := regions.room - written.length
          header := written ++ regions.header } := by
  have hbehind : regions.room - written.length + written.length = regions.room :=
    Nat.sub_add_cancel hroom
  have hfront : regions.frame.storage.take (regions.room - written.length)
      = List.replicate (regions.room - written.length) 0 := by
    change (List.replicate regions.room 0 ++ _).take _ = _
    rw [List.take_append_of_le_length (by rw [List.length_replicate]; omega), List.take_replicate,
      Nat.min_eq_left (Nat.sub_le _ _)]
  have hrest : regions.frame.storage.drop regions.room = regions.header ++ regions.data :=
    regions.body_frame
  have hdata : regions.frame.dataStart
      = regions.room - written.length + (written ++ regions.header).length := by
    change regions.room + regions.header.length = _
    rw [List.length_append]
    omega
  simp only [Frame.writeHeader, hbehind, hfront, hrest, hdata]
  simp only [frame, List.append_assoc]

theorem perform_frame_allocate (written : Bytes) :
    regions.frame.perform (.allocate written)
      = ((regions.perform (.allocate written)).1,
          (regions.perform (.allocate written)).2.frame) := by
  rw [Frame.perform, perform]
  by_cases hroom : written.length ≤ regions.room
  · rw [regions.allocHeader?_frame hroom, if_pos hroom]
    exact congrArg _ (regions.writeHeader_frame hroom)
  · have hnone : regions.frame.allocHeader? written.length = none := if_neg hroom
    rw [hnone, if_neg hroom]

/-- What is consumed changes its region and not its place. -/
theorem perform_frame_consume (count : Nat) :
    regions.frame.perform (.consume count)
      = ((regions.perform (.consume count)).1, (regions.perform (.consume count)).2.frame) := by
  have hleft : regions.frame.storage.length - regions.frame.dataStart = regions.data.length := by
    have hdata := congrArg List.length regions.data_frame
    rwa [Frame.data, List.length_drop] at hdata
  rw [Frame.perform, perform]
  by_cases hcount : count ≤ regions.data.length
  · have hmoved : { regions.frame with dataStart := regions.frame.dataStart + count }
        = frame { regions with
            header := regions.header ++ regions.data.take count
            data := regions.data.drop count } := by
      simp only [frame, List.append_assoc, List.take_append_drop, List.length_append,
        List.length_take, Nat.min_eq_left hcount, Nat.add_assoc]
    rw [Frame.consume?, hleft, if_pos hcount, if_pos hcount, ← hmoved]
  · rw [Frame.consume?, hleft, if_neg hcount, if_neg hcount]

theorem received_frame :
    regions.frame.received
      = frame { regions with
          room := 0
          header := []
          data := regions.header ++ regions.data } := by
  rw [Frame.received, regions.body_frame]
  rfl

/-- One call to the frame is one call to its regions. -/
theorem perform_frame (call : FrameCall) :
    regions.frame.perform call
      = ((regions.perform call).1, (regions.perform call).2.frame) := by
  cases call with
  | allocate written => exact regions.perform_frame_allocate written
  | consume count => exact regions.perform_frame_consume count
  | announce hasElements => rfl
  | receive => exact congrArg _ regions.received_frame

theorem run_frame (calls : List FrameCall) :
    regions.frame.run calls = ((regions.run calls).1, (regions.run calls).2.frame) := by
  induction calls generalizing regions with
  | nil => rfl
  | cons call calls ih =>
    have hrest := ih (regions.perform call).2
    simp only [Frame.run, run, regions.perform_frame call, hrest]

end FrameRegions

namespace Frame

/-- **A frame refines its regions.** However it was made and whatever is called on it, a frame gives
the answers that its regions would give, and shows them afterwards. -/
theorem run_eq_run_regions (source : FrameSource) (calls : List FrameCall) :
    (source.frame.run calls).1 = (source.regions.run calls).1 ∧
      (source.frame.run calls).2.Shows (source.regions.run calls).2 := by
  rw [source.frame_eq, source.regions.run_frame calls]
  exact ⟨rfl, (source.regions.run calls).2.shows_frame⟩

end Frame

end MeshTelemetry
