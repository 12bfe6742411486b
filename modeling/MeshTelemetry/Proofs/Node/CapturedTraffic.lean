import MeshTelemetry.Proofs.Capture
import MeshTelemetry.Proofs.Node.Upkeep

/-!
# The traffic in a capture

A node captures a frame that leaves as it leaves, whatever has been embedded, and a frame that
arrives as it arrives, whatever will become of its telemetry. Nothing else that can happen to a node
reaches its recorder. So the capture of a recorder that a node has been given holds, behind what it
held before, one entry for each frame that has passed since, in the order of the traffic.
-/

namespace MeshTelemetry

namespace Node

/-- The frames that the operation captures: the outgoing one with its telemetry, and the incoming one
with the telemetry that it brought. -/
def captures (node : Node) : Operation → List Bytes
  | .prepareOutgoing frame origin => [(node.prepareOutgoing frame origin).2.2.wire]
  | .receiveFrame frame _ => [frame.wire]
  | .applyBudget _ _ | .embed _ | .extract _ _ | .nextTelemetry | .commitTelemetry _
  | .encodeWithPending _ | .setEnvironment _ | .setRecorder _ => []

def capturesOf (node : Node) (operations : List Operation) : List Bytes :=
  (node.steps operations).flatMap fun step => step.1.captures step.2

/-- The node has recorded these frames in the recorder that it had, if it had one. -/
def Recorded (node : Node) (frames : List Bytes) (next : Node) : Prop :=
  next.recorder = node.recorder.map fun recorder => (recorder.recordAll frames).2

section

variable {node between next : Node} {frames others : List Bytes} {overflows failures : Nat}

theorem Upkeep.recorded (h : node.Upkeep next overflows failures) : node.Recorded [] next := by
  rw [Recorded, h.recorder]
  exact (congrFun Option.map_id _).symm

theorem recorded_capture (node : Node) (frame : Bytes) :
    node.Recorded [frame] (node.capture frame) :=
  rfl

theorem Recorded.trans (h : node.Recorded frames between) (hnext : between.Recorded others next) :
    node.Recorded (frames ++ others) next := by
  rw [Recorded, hnext, h, Option.map_map]
  refine congrArg (Option.map · node.recorder) (funext fun recorder => ?_)
  exact (recorder.recordAll_append frames others).symm

theorem recorded_prepareOutgoing (node : Node) (frame : Frame) (origin : TrafficOrigin) :
    node.Recorded [(node.prepareOutgoing frame origin).2.2.wire]
      (node.prepareOutgoing frame origin).2.1 := by
  obtain ⟨left, failures, heq, hleft⟩ := node.prepareOutgoing_captures frame origin
  rw [heq]
  exact hleft.recorded.trans (left.recorded_capture _)

theorem recorded_receiveFrame (h : node.Invariant) (frame : Frame) (destinedHere : Bool) :
    node.Recorded [frame.wire] (node.receiveFrame frame destinedHere).2.1 :=
  (node.recorded_capture frame.wire).trans
    (upkeep_extract (h.capture frame.wire) frame destinedHere).recorded

/-- One operation, other than a change of the recorder. -/
theorem recorded_perform (h : node.Invariant) {operation : Operation}
    (hkept : ∀ recorder, operation ≠ .setRecorder recorder) :
    node.Recorded (node.captures operation) (node.perform operation) := by
  cases operation with
  | applyBudget frameLength origin => exact (node.upkeep_applyBudget frameLength origin).recorded
  | embed frame =>
    obtain ⟨failures, hembedded⟩ := node.upkeep_embed frame
    exact hembedded.recorded
  | extract frame destinedHere => exact (upkeep_extract h frame destinedHere).recorded
  | prepareOutgoing frame origin => exact node.recorded_prepareOutgoing frame origin
  | receiveFrame frame destinedHere => exact recorded_receiveFrame h frame destinedHere
  | nextTelemetry => exact node.upkeep_nextTelemetry.recorded
  | commitTelemetry count => exact (upkeep_commitTelemetry h count).recorded
  | encodeWithPending message => exact (upkeep_encodeWithPending h message).recorded
  | setEnvironment environment => exact node.upkeep_self.recorded
  | setRecorder recorder => exact absurd rfl (hkept recorder)

theorem recorded_performAll (h : node.Invariant) {operations : List Operation}
    (hkept : ∀ recorder, .setRecorder recorder ∉ operations) :
    node.Recorded (node.capturesOf operations) (node.performAll operations) := by
  induction operations generalizing node with
  | nil => exact node.upkeep_self.recorded
  | cons operation operations ih =>
    have hfirst : ∀ recorder, operation ≠ .setRecorder recorder := by
      rintro recorder rfl
      exact hkept recorder List.mem_cons_self
    have hrest : ∀ recorder, .setRecorder recorder ∉ operations :=
      fun recorder hmem => hkept recorder (List.mem_cons_of_mem _ hmem)
    exact (recorded_perform h hfirst).trans (ih (h.perform operation) hrest)

end

end Node

/-- **A capture replays the traffic.** Frames that are recorded one after another are all accepted,
and the sink then holds the global header and one entry for each of them, without a byte missing or
left over. A node to which a recorder is given, in whatever state both are, appends one entry for
each frame that it prepares for sending, as it leaves, and one for each that it receives, as it
arrives, and no other entry. -/
theorem capture_replays_traffic :
    (∀ (stamps : List Timestamp) (frames : List Bytes),
      ∃ started final, Recorder.start {} = .ok started ∧
        Recorder.recordAll { started with stamps := stamps } frames
          = (frames.map fun _ => .ok (), final) ∧
        CaptureFile.read? final.sink.bytes
          = some ⟨.written, CaptureEntry.ofFrames stamps frames⟩ ∧
        (readCapture final.sink.bytes).2
          = (CaptureEntry.ofFrames stamps frames).map CaptureEntry.frame) ∧
    ∀ (node : Node) (recorder : Recorder) (entries : List CaptureEntry)
      (operations : List Node.Operation),
      node.Reachable → recorder.Holds entries →
      (∀ other, .setRecorder other ∉ operations) →
      ∃ final,
        (node.performAll (.setRecorder recorder :: operations)).recorder = some final ∧
        final.Holds (entries ++ CaptureEntry.ofFrames recorder.stamps
          ((node.perform (.setRecorder recorder)).capturesOf operations)) := by
  constructor
  · intro stamps frames
    obtain ⟨started, hstart, hholds⟩ := Recorder.start_holds stamps
    obtain ⟨hresults, hfinal⟩ := hholds.recordAll frames
    rw [List.nil_append] at hfinal
    exact ⟨started, _, hstart, Prod.ext hresults rfl, hfinal.reads,
      readCapture_of_read? hfinal.reads⟩
  · intro node recorder entries operations hnode hholds hkept
    have hset : (node.perform (.setRecorder recorder)).Invariant := hnode.invariant.perform _
    have hrecorded := Node.recorded_performAll hset hkept
    exact ⟨_, hrecorded, (hholds.recordAll _).2⟩

/-- A node sends a report, receives a frame that does not decode, passes a frame on that is not data,
and hands a record to its application. -/
def Node.passing : List Node.Operation :=
  [.prepareOutgoing (.outgoing .data [] [1, 2, 3]) .originator,
    .receiveFrame (.incoming .data [] true [0x00, 0x3F, 0x09]) false,
    .prepareOutgoing (.outgoing .broadcast [] [4]) .forwarder, .nextTelemetry]

/-- Three frames have been captured, the first of them with its telemetry. -/
theorem capture_replays_traffic_passing :
    ∃ node started final entries, Node.start {} { nodeId := 1 } = .ok node ∧
      Recorder.start {} = .ok started ∧
        (node.performAll (.setRecorder started :: Node.passing)).recorder = some final ∧
          CaptureFile.read? final.sink.bytes = some ⟨.written, entries⟩ ∧
            entries.map (fun entry => entry.frame.data) =
              [[0x00, 0x3F, 0x09, 0xA8, 0x2A, 0xA0, 0x01, 0xFF, 0x01, 0x00, 0x00, 0x00, 0x00, 0x00,
                  0xF8, 1, 2, 3],
                [0x00, 0x3F, 0x09], [4]] := by
  let node : Node :=
    { settings := {}
      environment := { nodeId := 1 }
      store := .ofCapacities 32 256 }
  let started : Recorder := { sink := { bytes := captureHeader } }
  have hstart : Node.start {} { nodeId := 1 } = .ok node := rfl
  have hholds : started.Holds [] := ⟨rfl, CaptureFile.read?_captureHeader⟩
  have hkept : ∀ other, Node.Operation.setRecorder other ∉ Node.passing := by
    intro other hmem
    simp [Node.passing] at hmem
  obtain ⟨final, hfinal, hheld⟩ :=
    capture_replays_traffic.2 node started [] Node.passing (.start hstart) hholds hkept
  exact ⟨node, started, final, _, hstart, rfl, hfinal, hheld.reads, by decide +kernel⟩

end MeshTelemetry
