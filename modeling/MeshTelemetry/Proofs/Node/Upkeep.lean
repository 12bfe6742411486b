import MeshTelemetry.Proofs.Node.CounterLedger

/-!
# What goes on beside the carrier

The recorder in use and the counts of overflow events and of failed embeddings have no part in what a
node decides. Few stages of an operation touch one of them, and the three are followed here together,
so that every stage is gone through once. Whether an applied budget has counted an overflow event can
be told from its outcome.
-/

namespace MeshTelemetry

/-- The outcomes that come with a setting of the overflow flag, be it set before or not. -/
def AdmissionOutcome.setsFlag : AdmissionOutcome → Bool
  | .truncated _ | .held true => true
  | .noCarrier | .discarded | .held false | .admitted _ | .sampledOut | .notSelected
  | .poolExhausted => false

namespace Node

/-- The frame brings a content that the node takes over and marks. -/
def takeoverMarks (node : Node) (frame : Frame) (destinedHere : Bool) : Bool :=
  match (node.extract frame destinedHere).1 with
  | .ok (some content) =>
    node.TakesOver destinedHere ∧ node.settings.carrierCapacity < content.records.length ∧
      content.header.isOverflowed = false
  | .ok none | .error _ => false

/-- The node goes on with the recorder that it had, and has counted so many overflow events and failed
embeddings. -/
structure Upkeep (node next : Node) (overflows failures : Nat) : Prop where
  recorder : next.recorder = node.recorder
  overflowEvents : next.counters.overflowEvents = node.counters.overflowEvents + overflows
  embedFailures : next.counters.embedFailures = node.counters.embedFailures + failures

theorem Upkeep.trans {node between next : Node} {overflows failures others fails : Nat}
    (h : node.Upkeep between overflows failures) (hnext : between.Upkeep next others fails) :
    node.Upkeep next (overflows + others) (failures + fails) where
  recorder := hnext.recorder.trans h.recorder
  overflowEvents := by rw [hnext.overflowEvents, h.overflowEvents, Nat.add_assoc]
  embedFailures := by rw [hnext.embedFailures, h.embedFailures, Nat.add_assoc]

section

variable (node : Node)

theorem upkeep_self : node.Upkeep node 0 0 := ⟨rfl, rfl, rfl⟩

theorem upkeep_resetFor (origin : TrafficOrigin) : node.Upkeep (node.resetFor origin) 0 0 := by
  cases origin with
  | forwarder => exact node.upkeep_self
  | originator =>
    rw [resetFor]
    split
    · exact ⟨rfl, rfl, rfl⟩
    · exact node.upkeep_self

theorem upkeep_decision (frameLength : Nat) :
    node.Upkeep (node.decision frameLength).2 0 0 := by
  unfold decision
  split
  · exact ⟨rfl, rfl, rfl⟩
  · exact node.upkeep_self

theorem upkeep_addOwnRecord (origin : TrafficOrigin) :
    (node.addOwnRecord origin).1.setsFlag = false ∧
      node.Upkeep (node.addOwnRecord origin).2 0 0 := by
  unfold addOwnRecord
  split
  · exact ⟨rfl, node.upkeep_self⟩
  · split
    · exact ⟨rfl, rfl, rfl, rfl⟩
    · split
      · exact ⟨rfl, rfl, rfl, rfl⟩
      · exact ⟨rfl, rfl, rfl, rfl⟩

theorem upkeep_acceptRecord (slots : Nat) (origin : TrafficOrigin) :
    (node.acceptRecord slots origin).1.setsFlag = false ∧
      node.Upkeep (node.acceptRecord slots origin).2 0 0 := by
  obtain ⟨drawn, draws, hdraws, _⟩ := node.drawsIn_eq slots
  unfold acceptRecord
  rw [hdraws]
  cases drawn with
  | false => exact ⟨rfl, rfl, rfl, rfl⟩
  | true =>
    obtain ⟨hclear, hadded⟩ := upkeep_addOwnRecord
      { node with environment := { node.environment with draws := draws } } origin
    exact ⟨hclear, hadded.recorder, hadded.overflowEvents, hadded.embedFailures⟩

end

section

variable {node : Node}

theorem upkeep_setOverflow (hcarrier : node.carrier ≠ none) :
    node.Upkeep node.setOverflow 1 0 := by
  obtain ⟨header, hheader⟩ := Option.ne_none_iff_exists'.mp hcarrier
  rw [setOverflow, hheader]
  exact ⟨rfl, rfl, rfl⟩

theorem upkeep_carryOut {decision : BudgetDecision} (origin : TrafficOrigin)
    (hcarrier : decision ≠ .skip → node.carrier ≠ none) :
    node.Upkeep (node.carryOut origin decision).2
      (node.carryOut origin decision).1.setsFlag.toNat 0 := by
  cases decision with
  | skip | create => exact node.upkeep_self
  | discard => exact ⟨rfl, rfl, rfl⟩
  | truncate =>
    have hcleared : node.Upkeep { node with
        store := node.store.clearCarrier.2
        counters.recordsDropped := node.counters.recordsDropped + node.store.clearCarrier.1 } 0 0 :=
      ⟨rfl, rfl, rfl⟩
    exact hcleared.trans (upkeep_setOverflow (hcarrier nofun))
  | hold overflow =>
    cases overflow with
    | false => exact node.upkeep_self
    | true => exact upkeep_setOverflow (hcarrier nofun)
  | accept slots =>
    obtain ⟨hclear, haccepted⟩ := node.upkeep_acceptRecord slots origin
    rw [carryOut, hclear]
    exact haccepted

end

/-- What is decided about is in hand, so a flag that is set is counted. -/
theorem upkeep_applyBudget (node : Node) (frameLength : Nat) (origin : TrafficOrigin) :
    node.Upkeep (node.applyBudget frameLength origin).2
      (node.applyBudget frameLength origin).1.setsFlag.toNat 0 := by
  have hdecided := (node.upkeep_resetFor origin).trans
    ((node.resetFor origin).upkeep_decision frameLength)
  have hdone := hdecided.trans (upkeep_carryOut origin carrier_of_decision)
  rw [Nat.zero_add] at hdone
  exact hdone

theorem upkeep_embed (node : Node) (frame : Frame) :
    ∃ failures, node.Upkeep (node.embed frame).2.1 0 failures := by
  unfold embed
  cases node.carrier with
  | none => exact ⟨0, node.upkeep_self⟩
  | some header =>
    simp only
    cases frame.embed ⟨header, node.store.drainCarrier.1⟩ with
    | ok embedded => exact ⟨0, rfl, rfl, rfl⟩
    | error err => exact ⟨1, rfl, rfl, rfl⟩

/-- A frame that leaves is captured as it leaves, after everything else. -/
theorem prepareOutgoing_captures (node : Node) (frame : Frame) (origin : TrafficOrigin) :
    ∃ left failures,
      (node.prepareOutgoing frame origin).2.1
        = left.capture (node.prepareOutgoing frame origin).2.2.wire ∧
      node.Upkeep left
        (frame.kind.carriesTelemetry &&
          (node.afterSeen.applyBudget frame.length origin).1.setsFlag).toNat failures := by
  cases hkind : frame.kind.carriesTelemetry with
  | false =>
    rw [prepareOutgoing, if_neg (by simp [hkind])]
    exact ⟨_, 0, rfl, rfl, rfl, rfl⟩
  | true =>
    have hseen : node.Upkeep node.afterSeen 0 0 := ⟨rfl, rfl, rfl⟩
    have hdecided := hseen.trans (node.afterSeen.upkeep_applyBudget frame.length origin)
    rw [Nat.zero_add] at hdecided
    rw [prepareOutgoing_of_data hkind rfl]
    split
    · obtain ⟨failures, hembedded⟩ :=
        upkeep_embed (node.afterSeen.applyBudget frame.length origin).2 frame
      exact ⟨_, _, rfl, hdecided.trans hembedded⟩
    · exact ⟨_, 0, rfl, hdecided⟩

section

variable {node : Node}

/-- A takeover counts an overflow event where it marks a header that was not marked. -/
theorem upkeep_takeIn (h : node.Invariant) (content : TelemetryContent) (destinedHere : Bool) :
    node.Upkeep (node.takeIn content destinedHere)
      (decide (node.TakesOver destinedHere ∧
        node.settings.carrierCapacity < content.records.length ∧
          content.header.isOverflowed = false)).toNat 0 := by
  obtain ⟨store, heq, _⟩ := takeIn_eq h content destinedHere
  have hcounters : (node.countersAfter content destinedHere).overflowEvents
      = node.counters.overflowEvents
        + (decide (node.TakesOver destinedHere ∧
            node.settings.carrierCapacity < content.records.length ∧
              content.header.isOverflowed = false)).toNat := by
    by_cases htakes : node.TakesOver destinedHere
    · simp only [countersAfter, htakes, true_and, if_true]
      by_cases hmarks : node.settings.carrierCapacity < content.records.length ∧
          content.header.isOverflowed = false
      · rw [if_pos hmarks, decide_eq_true hmarks, Bool.toNat_true]
      · rw [if_neg hmarks, decide_eq_false hmarks, Bool.toNat_false]
    · rw [countersAfter, if_neg htakes, decide_eq_false (fun hall => htakes hall.1)]
      rfl
  rw [heq]
  refine ⟨rfl, hcounters, ?_⟩
  simp only [countersAfter]
  split <;> rfl

theorem upkeep_extract (h : node.Invariant) (frame : Frame) (destinedHere : Bool) :
    node.Upkeep (node.extract frame destinedHere).2.1
      (node.takeoverMarks frame destinedHere).toNat 0 := by
  obtain ⟨result, next, left, heq, hextraction⟩ := extract_spec h frame destinedHere
  rw [takeoverMarks, heq]
  cases hextraction with
  | nothing => exact node.upkeep_self
  | malformed => exact ⟨rfl, rfl, rfl⟩
  | stripped =>
    exact upkeep_takeIn h _ destinedHere

theorem upkeep_commitTelemetry (h : node.Invariant) (count : Nat) :
    node.Upkeep (node.commitTelemetry count).2 0 0 := by
  obtain ⟨store, heq, _⟩ := commitTelemetry_spec h.stores count
  rw [heq]
  exact ⟨rfl, rfl, rfl⟩

theorem upkeep_nextTelemetry (node : Node) : node.Upkeep node.nextTelemetry.2 0 0 := by
  unfold nextTelemetry
  split
  · exact ⟨rfl, rfl, rfl⟩
  · exact ⟨rfl, rfl, rfl⟩

theorem upkeep_encodeWithPending (h : node.Invariant) (message : Message) :
    node.Upkeep (node.encodeWithPending message).2 0 0 := by
  unfold encodeWithPending
  simp only
  split
  · exact node.upkeep_self
  · split
    · exact node.upkeep_self
    · exact upkeep_commitTelemetry h _

end

/-- The operations of a run, each with the node that it finds. -/
def steps (node : Node) : List Operation → List (Node × Operation)
  | [] => []
  | operation :: operations => (node, operation) :: (node.perform operation).steps operations

end Node

end MeshTelemetry
