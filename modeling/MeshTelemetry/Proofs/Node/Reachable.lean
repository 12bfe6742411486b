import MeshTelemetry.Node.Relay
import MeshTelemetry.Proofs.Node.Admission
import MeshTelemetry.Proofs.Node.Carriage
import MeshTelemetry.Proofs.Node.Delivery

/-!
# Nodes that a run can lead to

A node starts with usable settings and empty pools. After that anything can happen to it in any
order: frames and messages of every sort, and other surroundings. The invariant holds at the start
and every operation keeps it, so it holds of every node that a run can lead to.
-/

namespace MeshTelemetry

namespace Node

/-- What can happen to a node. -/
inductive Operation where
  | applyBudget (frameLength : Nat) (origin : TrafficOrigin)
  | embed (frame : Frame)
  | extract (frame : Frame) (destinedHere : Bool)
  | prepareOutgoing (frame : Frame) (origin : TrafficOrigin)
  | receiveFrame (frame : Frame) (destinedHere : Bool)
  | nextTelemetry
  | commitTelemetry (count : Nat)
  | encodeWithPending (message : Message)
  | setEnvironment (environment : Environment)
  | setRecorder (recorder : Recorder)

def perform (node : Node) : Operation → Node
  | .applyBudget frameLength origin => (node.applyBudget frameLength origin).2
  | .embed frame => (node.embed frame).2.1
  | .extract frame destinedHere => (node.extract frame destinedHere).2.1
  | .prepareOutgoing frame origin => (node.prepareOutgoing frame origin).2.1
  | .receiveFrame frame destinedHere => (node.receiveFrame frame destinedHere).2.1
  | .nextTelemetry => node.nextTelemetry.2
  | .commitTelemetry count => (node.commitTelemetry count).2
  | .encodeWithPending message => (node.encodeWithPending message).2
  | .setEnvironment environment => { node with environment := environment }
  | .setRecorder recorder => { node with recorder := some recorder }

/-- The nodes that a run of operations can lead to. -/
inductive Reachable : Node → Prop where
  | start {settings : Settings} {environment : Environment} {node : Node} :
      Node.start settings environment = .ok node → Reachable node
  | perform {node : Node} (operation : Operation) :
      Reachable node → Reachable (node.perform operation)

theorem Invariant.capture {node : Node} (h : node.Invariant) (frame : Bytes) :
    (node.capture frame).Invariant :=
  h.withRecorder _

theorem Invariant.prepareOutgoing {node : Node} (h : node.Invariant) (frame : Frame)
    (origin : TrafficOrigin) : (node.prepareOutgoing frame origin).2.1.Invariant := by
  unfold Node.prepareOutgoing
  simp only
  split
  · split
    · exact (((h.withCounters _).applyBudget _ _).embed frame).capture _
    · exact ((h.withCounters _).applyBudget _ _).capture _
  · exact (h.withCounters _).capture _

theorem Invariant.receiveFrame {node : Node} (h : node.Invariant) (frame : Frame)
    (destinedHere : Bool) : (node.receiveFrame frame destinedHere).2.1.Invariant :=
  (h.capture frame.wire).extract frame destinedHere

/-- Every operation keeps the invariant. -/
theorem Invariant.perform {node : Node} (h : node.Invariant) (operation : Operation) :
    (node.perform operation).Invariant := by
  cases operation with
  | applyBudget frameLength origin => exact h.applyBudget frameLength origin
  | embed frame => exact h.embed frame
  | extract frame destinedHere => exact h.extract frame destinedHere
  | prepareOutgoing frame origin => exact h.prepareOutgoing frame origin
  | receiveFrame frame destinedHere => exact h.receiveFrame frame destinedHere
  | nextTelemetry => exact h.nextTelemetry
  | commitTelemetry count => exact h.commitTelemetry count
  | encodeWithPending message => exact h.encodeWithPending message
  | setEnvironment environment => exact h.withEnvironment environment
  | setRecorder recorder => exact h.withRecorder (some recorder)

/-- **The invariant of a run.** It holds of every node that a run can lead to. -/
theorem Reachable.invariant {node : Node} (h : node.Reachable) : node.Invariant := by
  induction h with
  | start hstart => exact .start hstart
  | perform operation _ ih => exact ih.perform operation

end Node

end MeshTelemetry
