import MeshTelemetry.Proofs.Node.Shortage
import MeshTelemetry.Proofs.Node.Upkeep

/-!
# What overflow events count

A node counts an overflow event when it marks a header: where the frame has no room for a record,
where a carrier is truncated, and where a content that it takes over has more records than there are
slots. A takeover does not count if the header came marked, and a marked carrier is held without an
event. A truncation asks nothing: it counts again when it empties a carrier that is marked already.
So the events of a run are the transitions of the flag and those truncations, and they are the
transitions alone in the runs that have no such truncation.
-/

namespace MeshTelemetry

/-- A header as an operation finds or makes it, and as it leaves it. There is none where there is no
carrier. -/
structure HeaderChange where
  before : Option TelemetryHeader
  after : Option TelemetryHeader

/-- The flag has gone from clear to set. -/
def HeaderChange.marks (change : HeaderChange) : Bool :=
  change.before.any (!·.isOverflowed) && change.after.any (·.isOverflowed)

theorem HeaderChange.marks_self (header : Option TelemetryHeader) :
    marks ⟨header, header⟩ = false := by
  cases header with
  | none => rfl
  | some header => exact Bool.not_and_self _

theorem HeaderChange.marks_of_marked {change : HeaderChange}
    (h : change.before.any (·.isOverflowed) = true) : change.marks = false := by
  rw [marks]
  cases hbefore : change.before with
  | none => rfl
  | some header =>
    rw [hbefore, Option.any_some] at h
    rw [Option.any_some, h]
    rfl

def AdmissionOutcome.isTruncated : AdmissionOutcome → Bool
  | .truncated _ => true
  | .noCarrier | .discarded | .held _ | .admitted _ | .sampledOut | .notSelected
  | .poolExhausted => false

namespace Node

/-- What the budget decides about becomes what is in hand afterwards. -/
def budgetChange (node : Node) (frameLength : Nat) (origin : TrafficOrigin) : HeaderChange where
  before := some (node.contentFor origin).header
  after := (node.applyBudget frameLength origin).2.carrier

/-- The header of a content that is taken over, or the node's own, and what is in hand afterwards. -/
def receptionChange (node : Node) (frame : Frame) (destinedHere : Bool) : HeaderChange :=
  match node.extract frame destinedHere with
  | (.ok (some content), next, _) =>
    ⟨if node.TakesOver destinedHere then some content.header else node.carrier, next.carrier⟩
  | (.ok none, next, _) | (.error _, next, _) => ⟨node.carrier, next.carrier⟩

/-- The header that the operation works on. With an outgoing frame of data it is the one that the
budget has left, which goes with the frame. -/
def headerChange (node : Node) (operation : Operation) : HeaderChange :=
  match operation with
  | .applyBudget frameLength origin => node.budgetChange frameLength origin
  | .prepareOutgoing frame origin =>
    if frame.kind.carriesTelemetry then node.afterSeen.budgetChange frame.length origin
    else ⟨node.carrier, (node.perform operation).carrier⟩
  | .extract frame destinedHere => node.receptionChange frame destinedHere
  | .receiveFrame frame destinedHere => (node.capture frame.wire).receptionChange frame destinedHere
  | .embed _ | .nextTelemetry | .commitTelemetry _ | .encodeWithPending _ | .setEnvironment _
  | .setRecorder _ => ⟨node.carrier, (node.perform operation).carrier⟩

/-- The operation turns the overflow flag of the node's carrier from clear to set. -/
def marks (node : Node) (operation : Operation) : Bool := (node.headerChange operation).marks

/-- The operation truncates a carrier of which the flag is set. -/
def marksAgain (node : Node) : Operation → Bool
  | .applyBudget frameLength origin =>
    (node.contentFor origin).header.isOverflowed &&
      (node.applyBudget frameLength origin).1.isTruncated
  | .prepareOutgoing frame origin =>
    frame.kind.carriesTelemetry &&
      ((node.contentFor origin).header.isOverflowed &&
        (node.afterSeen.applyBudget frame.length origin).1.isTruncated)
  | .embed _ | .extract _ _ | .receiveFrame _ _ | .nextTelemetry | .commitTelemetry _
  | .encodeWithPending _ | .setEnvironment _ | .setRecorder _ => false

section

variable {node : Node} {frameLength : Nat} {origin : TrafficOrigin} {outcome : AdmissionOutcome}
  {header : TelemetryHeader} {carrier : Option TelemetryHeader} {carried others : List Record}
  {load : CarrierLoad}

/-- Decision by decision: what sets the flag turns it, unless it truncates what was marked. -/
theorem Admission.setsFlag_eq
    (h : Admission node origin header carried (node.budget.evaluate frameLength (some load)) outcome
      carrier others)
    (hload : load.overflowed = header.isOverflowed) :
    outcome.setsFlag.toNat = (HeaderChange.marks ⟨some header, carrier⟩).toNat
      + (header.isOverflowed && outcome.isTruncated).toNat := by
  have hset : header.setOverflowed.isOverflowed = true :=
    header.control.isOverflowed_setOverflowed
  generalize hdecision : node.budget.evaluate frameLength (some load) = decision at h
  cases h with
  | discarded =>
    simp [HeaderChange.marks, AdmissionOutcome.setsFlag, AdmissionOutcome.isTruncated]
  | truncated =>
    -- The one place where the flag may have been set: then the second term counts.
    cases hmarked : header.isOverflowed with
    | false => simp [HeaderChange.marks, AdmissionOutcome.setsFlag, hmarked, hset]
    | true =>
      simp [HeaderChange.marks, AdmissionOutcome.setsFlag, AdmissionOutcome.isTruncated, hmarked]
  | marked =>
    have hunmarked : header.isOverflowed = false := by
      rw [← hload, Bool.eq_false_iff]
      intro hmarked
      rcases node.budget.evaluate_of_overflowed frameLength hmarked with heq | heq | heq
      all_goals
        rw [heq] at hdecision
        cases hdecision
    simp [HeaderChange.marks, AdmissionOutcome.setsFlag, hunmarked, hset]
  | forwarded | sampledOut | notSelected | poolExhausted =>
    rw [HeaderChange.marks_self, AdmissionOutcome.isTruncated, Bool.and_false]
    rfl
  | admitted =>
    have hkept : HeaderChange.marks ⟨some header, some { header with
        sequence := header.sequence + 1 }⟩ = false := HeaderChange.marks_self (some header)
    rw [hkept, AdmissionOutcome.isTruncated, Bool.and_false]
    rfl

theorem Budgeted.setsFlag_eq (h : Budgeted node frameLength origin outcome carrier others) :
    outcome.setsFlag.toNat
      = (HeaderChange.marks ⟨some (node.contentFor origin).header, carrier⟩).toNat
        + ((node.contentFor origin).header.isOverflowed && outcome.isTruncated).toNat := by
  rcases h.skipped_or_admission with ⟨rfl, rfl, _⟩ | hadmission
  · simp [HeaderChange.marks, AdmissionOutcome.setsFlag, AdmissionOutcome.isTruncated]
  · exact hadmission.setsFlag_eq rfl

end

section

variable {node : Node} (h : node.Invariant)

include h

theorem setsFlag_applyBudget (frameLength : Nat) (origin : TrafficOrigin) :
    (node.applyBudget frameLength origin).1.setsFlag.toNat
      = (node.marks (.applyBudget frameLength origin)).toNat
        + (node.marksAgain (.applyBudget frameLength origin)).toNat := by
  obtain ⟨outcome, next, carrier, carried, heq, hbudgeted, hnext⟩ :=
    applyBudget_spec h frameLength origin
  rw [marks, headerChange, budgetChange, marksAgain, heq, hnext.carrier]
  exact hbudgeted.setsFlag_eq

/-- With a frame of data the budget is applied, and nothing that follows touches the flag. -/
theorem setsFlag_prepareOutgoing (frame : Frame) (origin : TrafficOrigin) :
    (frame.kind.carriesTelemetry &&
        (node.afterSeen.applyBudget frame.length origin).1.setsFlag).toNat
      = (node.marks (.prepareOutgoing frame origin)).toNat
        + (node.marksAgain (.prepareOutgoing frame origin)).toNat := by
  cases hkind : frame.kind.carriesTelemetry with
  | false =>
    have hkept : (node.perform (.prepareOutgoing frame origin)).carrier = node.carrier := by
      rw [perform, prepareOutgoing, if_neg (by simp [hkind])]
      rfl
    rw [marks, headerChange, if_neg (by simp [hkind]), hkept, HeaderChange.marks_self, marksAgain,
      hkind]
    rfl
  | true =>
    have hseen : node.afterSeen.Invariant := h.withCounters _
    have hdecided := setsFlag_applyBudget hseen frame.length origin
    rw [marks, headerChange, marksAgain, contentFor_afterSeen] at hdecided
    rw [marks, headerChange, if_pos hkind, marksAgain, hkind, Bool.true_and, Bool.true_and]
    exact hdecided

/-- The header that is taken over comes out marked if records are lost, and if it came in marked. -/
theorem marks_takeIn (content : TelemetryContent) {destinedHere : Bool}
    (htakes : node.TakesOver destinedHere) :
    HeaderChange.marks ⟨some content.header, (node.takeIn content destinedHere).carrier⟩
      = decide (node.settings.carrierCapacity < content.records.length ∧
          content.header.isOverflowed = false) := by
  obtain ⟨rfl, hnone⟩ := htakes
  rw [(takeIn_carries h content hnone).1]
  by_cases hlost : node.settings.carrierCapacity < content.records.length
  · have hmarked := isOverflowed_takenHeader hlost
    simp [HeaderChange.marks, hmarked, hlost]
  · rw [takenHeader_of_le (Nat.not_lt.mp hlost), HeaderChange.marks_self]
    simp [hlost]

theorem takeoverMarks_eq (frame : Frame) (destinedHere : Bool) :
    node.takeoverMarks frame destinedHere = (node.receptionChange frame destinedHere).marks := by
  obtain ⟨result, next, left, heq, hextraction⟩ := extract_spec h frame destinedHere
  rw [takeoverMarks, receptionChange, heq]
  cases hextraction with
  | nothing => exact (HeaderChange.marks_self node.carrier).symm
  | malformed => exact (HeaderChange.marks_self node.carrier).symm
  | stripped =>
    simp only
    by_cases htakes : node.TakesOver destinedHere
    · rw [if_pos htakes, marks_takeIn h _ htakes]
      simp [htakes]
    · rw [if_neg htakes, (takeIn_keeps h _ htakes).1, HeaderChange.marks_self]
      simp [htakes]

omit h in
theorem carrier_embed (frame : Frame) : (node.embed frame).2.1.carrier = none := by
  unfold embed
  cases hcarrier : node.carrier with
  | none => exact hcarrier
  | some header =>
    simp only
    split <;> rfl

omit h in
/-- What leaves the carrier alone, or takes it away, is no transition. -/
theorem overflowEvents_of_kept {next : Node}
    (hcount : next.counters.overflowEvents = node.counters.overflowEvents)
    (hcarrier : next.carrier = node.carrier ∨ next.carrier = none) :
    next.counters.overflowEvents = node.counters.overflowEvents
      + ((HeaderChange.marks ⟨node.carrier, next.carrier⟩).toNat + false.toNat) := by
  have hmarks : HeaderChange.marks ⟨node.carrier, next.carrier⟩ = false := by
    rcases hcarrier with hcarrier | hcarrier
    · rw [hcarrier, HeaderChange.marks_self]
    · rw [hcarrier]
      exact Bool.and_false _
  rw [hmarks, hcount]
  rfl

/-- One operation. -/
theorem overflowEvents_perform (operation : Operation) :
    (node.perform operation).counters.overflowEvents = node.counters.overflowEvents
      + ((node.marks operation).toNat + (node.marksAgain operation).toNat) := by
  cases operation with
  | applyBudget frameLength origin =>
    rw [← setsFlag_applyBudget h]
    exact (node.upkeep_applyBudget frameLength origin).overflowEvents
  | prepareOutgoing frame origin =>
    obtain ⟨left, failures, heq, hleft⟩ := node.prepareOutgoing_captures frame origin
    rw [← setsFlag_prepareOutgoing h, perform, heq]
    exact hleft.overflowEvents
  | extract frame destinedHere =>
    have hextracted := (upkeep_extract h frame destinedHere).overflowEvents
    rw [takeoverMarks_eq h] at hextracted
    exact hextracted
  | receiveFrame frame destinedHere =>
    have hcaptured := h.capture frame.wire
    have hextracted := (upkeep_extract hcaptured frame destinedHere).overflowEvents
    rw [takeoverMarks_eq hcaptured] at hextracted
    exact hextracted
  | embed frame =>
    obtain ⟨failures, hembedded⟩ := node.upkeep_embed frame
    exact overflowEvents_of_kept hembedded.overflowEvents (.inr (carrier_embed frame))
  | nextTelemetry =>
    exact overflowEvents_of_kept node.upkeep_nextTelemetry.overflowEvents
      (.inl (nextTelemetry_keeps h).1)
  | commitTelemetry count =>
    exact overflowEvents_of_kept (upkeep_commitTelemetry h count).overflowEvents
      (.inl (commitTelemetry_keeps h count).1)
  | encodeWithPending message =>
    exact overflowEvents_of_kept (upkeep_encodeWithPending h message).overflowEvents
      (.inl (encodeWithPending_keeps h message).1)
  | setEnvironment environment => exact @overflowEvents_of_kept node _ rfl (.inl rfl)
  | setRecorder recorder => exact @overflowEvents_of_kept node _ rfl (.inl rfl)

omit h in
theorem countP_steps_cons (found : Node → Operation → Bool) (operation : Operation)
    (operations : List Operation) :
    (node.steps (operation :: operations)).countP (fun step => found step.1 step.2)
      = (found node operation).toNat
        + ((node.perform operation).steps operations).countP fun step => found step.1 step.2 := by
  rw [steps, List.countP_cons, Nat.add_comm]
  cases found node operation <;> rfl

/-- A run counts what its operations count. -/
theorem overflowEvents_performAll (operations : List Operation) :
    (node.performAll operations).counters.overflowEvents = node.counters.overflowEvents
      + ((node.steps operations).countP (fun step => step.1.marks step.2)
        + (node.steps operations).countP fun step => step.1.marksAgain step.2) := by
  induction operations generalizing node with
  | nil => rfl
  | cons operation operations ih =>
    have hrest := ih (h.perform operation)
    rw [overflowEvents_perform h] at hrest
    rw [performAll, List.foldl_cons, ← performAll, hrest, countP_steps_cons marks,
      countP_steps_cons marksAgain]
    omega

theorem invariant_of_mem_steps {operations : List Operation} {step : Node × Operation}
    (hmem : step ∈ node.steps operations) : step.1.Invariant := by
  induction operations generalizing node with
  | nil => cases hmem
  | cons operation operations ih =>
    rcases List.mem_cons.mp hmem with rfl | hrest
    · exact h
    · exact ih (h.perform operation) hrest

end

/-- **Overflow events.** In a run from the start they number the operations that turn the flag of the
node's carrier from clear to set and those that truncate a carrier with the flag set. So they are the
transitions of the flag exactly in the runs without such a truncation, and an operation that finds the
flag set adds no event unless it is one. -/
theorem overflowEvents_eq_transitions_iff {settings : Settings} {environment : Environment}
    {node : Node} (hstart : Node.start settings environment = .ok node)
    (operations : List Operation) :
    (node.performAll operations).counters.overflowEvents
        = (node.steps operations).countP (fun step => step.1.marks step.2)
          + (node.steps operations).countP (fun step => step.1.marksAgain step.2) ∧
      ((node.performAll operations).counters.overflowEvents
          = (node.steps operations).countP (fun step => step.1.marks step.2) ↔
        ∀ step ∈ node.steps operations, step.1.marksAgain step.2 = false) ∧
      ∀ step ∈ node.steps operations,
        (step.1.headerChange step.2).before.any (·.isOverflowed) = true →
        (step.1.perform step.2).counters.overflowEvents
          = step.1.counters.overflowEvents + (step.1.marksAgain step.2).toNat := by
  have hnode : node.Invariant := .start hstart
  have hzero : node.counters.overflowEvents = 0 := by rw [(start_eq_ok hstart).1]
  have hcount := overflowEvents_performAll hnode operations
  rw [hzero, Nat.zero_add] at hcount
  refine ⟨hcount, ?_, ?_⟩
  · rw [hcount, Nat.add_eq_left, List.countP_eq_zero]
    simp only [Bool.not_eq_true]
  · intro step hmem hmarked
    have hunmarked : step.1.marks step.2 = false := HeaderChange.marks_of_marked hmarked
    rw [overflowEvents_perform (invariant_of_mem_steps hnode hmem), hunmarked, Bool.toNat_false,
      Nat.zero_add]

/-- A node takes a carrier over, and the next frame has no room for another record. -/
def fillingUp : List Operation := [.receiveFrame oneReport false, .applyBudget 105 .forwarder]

/-- The one transition of the run is its one event. -/
theorem overflowEvents_eq_transitions_fillingUp :
    ∃ node, Node.start {} { nodeId := 1 } = .ok node ∧
      (node.steps fillingUp).countP (fun step => step.1.marks step.2) = 1 ∧
        (node.performAll fillingUp).counters.overflowEvents = 1 := by
  let node : Node :=
    { settings := {}
      environment := { nodeId := 1 }
      store := .ofCapacities 32 256 }
  have hstart : Node.start {} { nodeId := 1 } = .ok node := rfl
  have hmarks : (node.steps fillingUp).countP (fun step => step.1.marks step.2) = 1 := by
    decide +kernel
  have hagain : ∀ step ∈ node.steps fillingUp, step.1.marksAgain step.2 = false := by
    decide +kernel
  obtain ⟨_, htransitions, _⟩ := overflowEvents_eq_transitions_iff hstart fillingUp
  exact ⟨node, hstart, hmarks, (htransitions.mpr hagain).trans hmarks⟩

/-- A marked carrier with one record arrives, and the next frame has no room for the record. -/
def emptyingMarked : List Operation :=
  [.receiveFrame
      (.incoming .data [] true
        [0x00, 0x3F, 0x09, 0xA8, 0x2A, 0xA3, 0x01, 0xFF, 0x0A, 0x00, 0x00, 0x01, 0xC4, 0x00, 0xF8])
      false,
    .applyBudget 110 .forwarder]

/-- **An event without a transition.** The flag is set from the start of the carrier's stay to the
end of the run, and the node counts one overflow event. -/
theorem marked_truncation_counted :
    ∃ node, Node.start {} { nodeId := 1 } = .ok node ∧
      (∀ step ∈ node.steps emptyingMarked, step.1.marks step.2 = false) ∧
        (node.performAll emptyingMarked).counters.overflowEvents = 1 := by
  let node : Node :=
    { settings := {}
      environment := { nodeId := 1 }
      store := .ofCapacities 32 256 }
  have hquiet : ∀ step ∈ node.steps emptyingMarked, step.1.marks step.2 = false := by decide +kernel
  have hevents : (node.performAll emptyingMarked).counters.overflowEvents = 1 := by decide +kernel
  exact ⟨node, rfl, hquiet, hevents⟩

end Node

end MeshTelemetry
