import Mathlib.Algebra.Order.Ring.Int
import MeshTelemetry.Proofs.Node.Extraction

/-!
# The ledger of a node

Every carrier that a node makes or takes over leaves it in one of a few ways, every record that is
received is consumed, still waits or was refused, and every refusal is counted once. The counters
alone do not show this: they say nothing of a carrier that an originator drops for a fresh one, and
they count refusals of three sorts as one. So a run is read as a list of events beside the counters.
Each stage of an operation keeps balance between the counters, the node it leaves and its events;
balances add up along a run, and at the start all of them are zero.
-/

namespace MeshTelemetry

def BudgetDecision.accepts : BudgetDecision → Bool
  | .accept _ => true
  | .skip | .create | .discard | .truncate | .hold _ => false

namespace Node

/-- What happens to a node beside what it counts. -/
inductive Event where
  /-- An originator finds a carrier in hand and drops it. -/
  | reset
  /-- The budget has room for the node's own record. -/
  | accepted
  /-- The full carrier pool refuses the node's own record. -/
  | exhausted
  /-- The full consumption pool refuses a received record. -/
  | refused
  /-- A content is taken over that has more records than the carrier pool has slots. -/
  | cut
  | embedded (written : Nat) (frame grown : Frame)
  deriving DecidableEq, Repr

namespace Event

/-- The bytes that the node says it has added to a frame. -/
@[simp] def written : Event → Nat
  | embedded written _ _ => written
  | reset | accepted | exhausted | refused | cut => 0

@[simp] def growth : Event → Int
  | embedded _ frame grown => grown.length - frame.length
  | reset | accepted | exhausted | refused | cut => 0

end Event

def resetEvents (node : Node) (origin : TrafficOrigin) : List Event :=
  if origin = .originator ∧ node.carrier.isSome then [.reset] else []

def decisionEvents (decision : BudgetDecision) : List Event :=
  if decision.accepts then [.accepted] else []

def outcomeEvents (outcome : AdmissionOutcome) : List Event :=
  if outcome = .poolExhausted then [.exhausted] else []

def budgetEvents (node : Node) (frameLength : Nat) (origin : TrafficOrigin) : List Event :=
  node.resetEvents origin ++
    (decisionEvents ((node.resetFor origin).decision frameLength).1 ++
      outcomeEvents (node.applyBudget frameLength origin).1)

def embedEvents (node : Node) (frame : Frame) : List Event :=
  match node.embed frame with
  | (.ok written, _, grown) => [.embedded written frame grown]
  | (.error _, _, _) => []

/-- How many of the records the consumption pool refuses, offered one after another. -/
def refusedCount (store : RecordStore) : List Record → Nat
  | [] => 0
  | record :: records =>
    match store.pushConsumption record with
    | .ok next => refusedCount next records
    | .error _ => refusedCount store records + 1

def cutEvents (node : Node) (content : TelemetryContent) (destinedHere : Bool) : List Event :=
  if destinedHere = false ∧ node.carrier = none ∧
      node.settings.carrierCapacity < content.records.length then [.cut]
  else []

def extractEvents (node : Node) (frame : Frame) (destinedHere : Bool) : List Event :=
  match (node.extract frame destinedHere).1 with
  | .ok (some content) =>
    .replicate (refusedCount node.store content.records) .refused ++
      node.cutEvents content destinedHere
  | .ok none | .error _ => []

def afterSeen (node : Node) : Node :=
  { node with counters.framesSeen := node.counters.framesSeen + 1 }

def events (node : Node) : Operation → List Event
  | .applyBudget frameLength origin => node.budgetEvents frameLength origin
  | .embed frame => node.embedEvents frame
  | .extract frame destinedHere => node.extractEvents frame destinedHere
  | .receiveFrame frame destinedHere =>
    (node.capture frame.wire).extractEvents frame destinedHere
  | .prepareOutgoing frame origin =>
    if frame.kind.carriesTelemetry then
      node.afterSeen.budgetEvents frame.length origin ++
        (node.afterSeen.applyBudget frame.length origin).2.embedEvents frame
    else []
  | .nextTelemetry | .commitTelemetry _ | .encodeWithPending _ | .setEnvironment _
  | .setRecorder _ => []

def performAll (node : Node) (operations : List Operation) : Node := operations.foldl perform node

def eventsOf (node : Node) : List Operation → List Event
  | [] => []
  | operation :: operations =>
    node.events operation ++ (node.perform operation).eventsOf operations

/-- The carriers that came, less those that went and the one in hand. -/
@[simp] def carrierBalance (node : Node) : Int :=
  ↑(node.counters.carriersCreated + node.counters.carriersReceived) -
    ↑(node.counters.framesEmbedded + node.counters.embedFailures + node.counters.carriersDiscarded +
      node.carrier.isSome.toNat)

/-- The records that came for the application, less those that it took and those that wait. -/
@[simp] def recordBalance (node : Node) : Int :=
  ↑node.counters.recordsReceived - ↑(node.counters.recordsConsumed + node.pending)

@[simp] def admissionsCounted (node : Node) : Nat :=
  node.counters.recordsAdmitted + node.counters.recordsSampledOut + node.counters.recordsNotSelected

/-- The counters have moved as the events say. -/
structure Books (before : Node) (events : List Event) (after : Node) : Prop where
  carriers : after.carrierBalance = before.carrierBalance + events.count .reset
  records : after.recordBalance = before.recordBalance + events.count .refused
  exhaustions : after.counters.poolExhaustions = before.counters.poolExhaustions
    + (events.count .refused + events.count .exhausted + events.count .cut)
  admissions : after.admissionsCounted + events.count .exhausted
    = before.admissionsCounted + events.count .accepted
  bytes : after.counters.telemetryBytesSent
    = before.counters.telemetryBytesSent + (events.map Event.written).sum

namespace Books

variable {before between after : Node} {events later : List Event}

theorem trans (h : Books before events between) (hlater : Books between later after) :
    Books before (events ++ later) after := by
  obtain ⟨hcarriers, hrecords, hexhaustions, hadmissions, hbytes⟩ := h
  obtain ⟨hcarriers', hrecords', hexhaustions', hadmissions', hbytes'⟩ := hlater
  constructor
  all_goals simp only [List.count_append, List.map_append, List.sum_append]; omega

theorem capture (h : Books before events after) (frame : Bytes) :
    Books before events (after.capture frame) := { h with }

end Books

/-- Nothing has happened. An operation that moves some of the books leaves the others as here. -/
theorem books_self (node : Node) : Books node [] node where
  carriers := (Int.add_zero _).symm
  records := (Int.add_zero _).symm
  exhaustions := rfl
  admissions := rfl
  bytes := rfl

theorem consumptionLength_of_pushCarrier {store next : RecordStore} {record : Record}
    (h : store.pushCarrier record = .ok next) :
    next.consumptionLength = store.consumptionLength := by
  unfold RecordStore.pushCarrier at h
  split at h
  · cases h
    rfl
  · cases h

theorem books_resetFor (node : Node) (origin : TrafficOrigin) :
    Books node (node.resetEvents origin) (node.resetFor origin) := by
  cases origin with
  | forwarder => exact node.books_self
  | originator =>
    by_cases hcarrier : node.carrier.isSome
    · rw [resetEvents, if_pos ⟨rfl, hcarrier⟩, resetFor, if_pos hcarrier]
      refine { node.books_self with carriers := ?_ }
      simp [freeCarrier, hcarrier]
      omega
    · rw [resetEvents, if_neg (by simp [hcarrier]), resetFor, if_neg hcarrier]
      exact node.books_self

theorem load_eq_none_iff {node : Node} : node.load = none ↔ node.carrier = none :=
  Option.map_eq_none_iff

theorem books_decision (node : Node) (frameLength : Nat) :
    Books node [] (node.decision frameLength).2 := by
  unfold decision
  split
  · -- A carrier is made only where there is none.
    rename_i hcreate
    have hnone : node.carrier = none := by
      rw [← load_eq_none_iff, Option.eq_none_iff_forall_ne_some]
      intro load hload
      rw [hload] at hcreate
      exact (node.budget.evaluate_some_ne frameLength load).2 hcreate
    refine { node.books_self with carriers := ?_ }
    simp [hnone]
    omega
  · exact node.books_self

/-- What is decided about is in hand. -/
theorem carrier_of_decision {node : Node} {frameLength : Nat}
    (hskip : (node.decision frameLength).1 ≠ .skip) :
    (node.decision frameLength).2.carrier ≠ none := by
  cases hload : node.load with
  | none =>
    rcases node.budget.evaluate_none_cases frameLength with hevaluate | hevaluate
    · rw [decision_of_skip hload hevaluate] at hskip
      exact absurd rfl hskip
    · obtain ⟨_, hdecision⟩ := decision_of_create hload hevaluate
      rw [hdecision]
      exact Option.some_ne_none _
  | some load =>
    rw [decision_of_load hload, Ne, ← load_eq_none_iff, hload]
    exact Option.some_ne_none _

theorem books_setOverflow (node : Node) : Books node [] node.setOverflow := by
  unfold setOverflow
  cases hcarrier : node.carrier with
  | none => exact node.books_self
  | some header => exact { node.books_self with carriers := by simp [hcarrier] }

theorem books_addOwnRecord {node : Node} (origin : TrafficOrigin) (hcarrier : node.carrier ≠ none) :
    Books node (.accepted :: outcomeEvents (node.addOwnRecord origin).1)
      (node.addOwnRecord origin).2 := by
  obtain ⟨header, hheader⟩ := Option.ne_none_iff_exists'.mp hcarrier
  unfold addOwnRecord
  rw [hheader]
  simp only
  cases node.ownRecord? header.bitmap origin with
  | none =>
    refine { node.books_self with carriers := ?_, admissions := ?_ }
    · simp [outcomeEvents, hheader]
    · simp [outcomeEvents]
      omega
  | some record =>
    simp only
    cases hpush : node.store.pushCarrier record with
    | error err =>
      refine { node.books_self with carriers := ?_, exhaustions := ?_, admissions := ?_ }
      · simp [outcomeEvents, hheader]
      · simp [outcomeEvents]
      · simp [outcomeEvents]
    | ok store =>
      refine { node.books_self with carriers := ?_, records := ?_, admissions := ?_ }
      · simp [outcomeEvents, hheader]
      · simp [outcomeEvents, pending, consumptionLength_of_pushCarrier hpush]
      · simp [outcomeEvents]
        omega

theorem books_acceptRecord {node : Node} (slots : Nat) (origin : TrafficOrigin)
    (hcarrier : node.carrier ≠ none) :
    Books node (.accepted :: outcomeEvents (node.acceptRecord slots origin).1)
      (node.acceptRecord slots origin).2 := by
  obtain ⟨drawn, draws, hdraws, _⟩ := node.drawsIn_eq slots
  unfold acceptRecord
  rw [hdraws]
  cases drawn with
  | true =>
    have hdrawn : Books node []
        { node with environment := { node.environment with draws := draws } } :=
      { node.books_self with }
    exact hdrawn.trans (books_addOwnRecord origin hcarrier)
  | false =>
    refine { node.books_self with admissions := ?_ }
    simp [outcomeEvents]
    omega

theorem books_carryOut {node : Node} {decision : BudgetDecision} (origin : TrafficOrigin)
    (hcarrier : decision ≠ .skip → node.carrier ≠ none) :
    Books node (decisionEvents decision ++ outcomeEvents (node.carryOut origin decision).1)
      (node.carryOut origin decision).2 := by
  cases decision with
  | skip | create => exact node.books_self
  | accept slots => exact books_acceptRecord slots origin (hcarrier nofun)
  | hold overflow =>
    cases overflow with
    | false => exact node.books_self
    | true => exact node.books_setOverflow
  | truncate =>
    have hcleared : Books node [] { node with
        store := node.store.clearCarrier.2
        counters.recordsDropped := node.counters.recordsDropped + node.store.clearCarrier.1 } :=
      { node.books_self with }
    exact hcleared.trans (books_setOverflow _)
  | discard =>
    have hsome := Option.isSome_iff_ne_none.mpr (hcarrier nofun)
    refine { node.books_self with carriers := ?_ }
    simp [carryOut, discardCarrier, freeCarrier, decisionEvents, outcomeEvents,
      BudgetDecision.accepts, hsome]
    omega

theorem books_applyBudget (node : Node) (frameLength : Nat) (origin : TrafficOrigin) :
    Books node (node.budgetEvents frameLength origin) (node.applyBudget frameLength origin).2 := by
  have hdecided := (node.books_resetFor origin).trans
    ((node.resetFor origin).books_decision frameLength)
  rw [List.append_nil] at hdecided
  exact hdecided.trans (books_carryOut origin carrier_of_decision)

theorem books_embed (node : Node) (frame : Frame) :
    Books node (node.embedEvents frame) (node.embed frame).2.1 := by
  unfold embedEvents embed
  cases hcarrier : node.carrier with
  | none => exact node.books_self
  | some header =>
    simp only
    cases frame.embed ⟨header, node.store.drainCarrier.1⟩ with
    | ok embedded =>
      refine { node.books_self with carriers := ?_, bytes := ?_ }
      · simp [hcarrier]
        omega
      · simp
    | error err =>
      refine { node.books_self with carriers := ?_ }
      simp [hcarrier]
      omega

theorem consumptionLength_of_pushConsumption {store next : RecordStore} {record : Record}
    (h : store.pushConsumption record = .ok next) :
    next.consumptionLength = store.consumptionLength + 1 := by
  unfold RecordStore.pushConsumption at h
  split at h
  · cases h
    rfl
  · cases h

/-- Each record waits or is refused, and each refusal is counted. -/
theorem foldl_receiveRecord_books (node : Node) (records : List Record) :
    ∃ store, records.foldl receiveRecord node
        = { node with
            store := store
            counters.poolExhaustions :=
              node.counters.poolExhaustions + refusedCount node.store records } ∧
      store.consumptionLength + refusedCount node.store records
        = node.pending + records.length := by
  induction records generalizing node with
  | nil => exact ⟨node.store, rfl, rfl⟩
  | cons record records ih =>
    rw [List.foldl_cons, receiveRecord, refusedCount]
    cases hpush : node.store.pushConsumption record with
    | ok next =>
      obtain ⟨store, heq, hlength⟩ := ih { node with store := next }
      refine ⟨store, heq, ?_⟩
      have hpending := consumptionLength_of_pushConsumption hpush
      simp only [pending, List.length_cons] at hlength ⊢
      omega
    | error err =>
      obtain ⟨store, heq, hlength⟩ := ih { node with
        counters.poolExhaustions := node.counters.poolExhaustions + 1 }
      refine ⟨store, ?_, ?_⟩
      · rw [heq]
        simp only [Nat.add_assoc, Nat.add_comm 1]
      · simp only [pending, List.length_cons] at hlength ⊢
        omega

theorem books_receiveRecords (node : Node) (records : List Record) :
    Books node (.replicate (refusedCount node.store records) .refused)
      (node.receiveRecords records) := by
  obtain ⟨store, heq, hlength⟩ := foldl_receiveRecord_books
    { node with counters.recordsReceived := node.counters.recordsReceived + records.length } records
  rw [receiveRecords, heq]
  simp only [pending] at hlength
  constructor <;> simp [pending, List.count_replicate]
  omega

theorem books_carry {node : Node} {received : List Record}
    (hstores : node.carrier = none → node.Stores [] received) (content : TelemetryContent) :
    Books node (node.cutEvents content false) (node.carry content) := by
  by_cases hnone : node.carrier = none
  · have hholds := hstores hnone
    obtain ⟨store, heq, hnext⟩ := carry_eq hnone hholds content
    have hpending : store.consumptionLength = node.pending :=
      hnext.consumptionLength_eq.trans hholds.pending_eq.symm
    rw [heq]
    by_cases hlong : node.settings.carrierCapacity < content.records.length
    · rw [cutEvents, if_pos ⟨rfl, hnone, hlong⟩]
      refine { node.books_self with carriers := ?_, records := ?_, exhaustions := ?_ }
      · simp [hnone]
        omega
      · simp [pending, hpending]
      · simp [hlong]
    · rw [cutEvents, if_neg (by simp [hlong])]
      refine { node.books_self with carriers := ?_, records := ?_, exhaustions := ?_ }
      · simp [hnone]
        omega
      · simp [pending, hpending]
      · simp [hlong]
  · rw [carry_of_carrier hnone, cutEvents, if_neg (by simp [hnone])]
    exact node.books_self

theorem books_takeIn {node : Node} (h : node.Invariant) (content : TelemetryContent)
    (destinedHere : Bool) :
    Books node
      (.replicate (refusedCount node.store content.records) .refused
        ++ node.cutEvents content destinedHere)
      (node.takeIn content destinedHere) := by
  have hreceived := node.books_receiveRecords content.records
  obtain ⟨received, hsettings, _, hcarrier, hstores⟩ := receiveRecords_keeps h content.records
  cases destinedHere with
  | true =>
    rw [cutEvents, if_neg (by simp), List.append_nil]
    exact hreceived
  | false =>
    have hcut : (node.receiveRecords content.records).cutEvents content false
        = node.cutEvents content false := by
      rw [cutEvents, cutEvents, hsettings, hcarrier]
    rw [← hcut]
    refine hreceived.trans (@books_carry _ received ?_ content)
    intro hnone
    rw [hcarrier] at hnone
    rw [← h.mayCarry.no_records hnone]
    exact hstores

theorem books_extract {node : Node} (h : node.Invariant) (frame : Frame) (destinedHere : Bool) :
    Books node (node.extractEvents frame destinedHere) (node.extract frame destinedHere).2.1 := by
  obtain ⟨result, next, left, heq, hextraction⟩ := extract_spec h frame destinedHere
  rw [extractEvents, heq]
  cases hextraction with
  | nothing => exact node.books_self
  | malformed => exact { node.books_self with }
  | stripped => exact books_takeIn h _ destinedHere

theorem books_nextTelemetry {node : Node} (h : node.Invariant) :
    Books node [] node.nextTelemetry.2 := by
  have hstores := h.stores
  cases hreceived : node.receivedRecords with
  | nil =>
    rw [hreceived] at hstores
    rw [nextTelemetry_nil hstores]
    exact node.books_self
  | cons record received =>
    rw [hreceived] at hstores
    obtain ⟨store, hpop, hnext⟩ := RecordStore.Holds.popConsumption_cons hstores
    have hbefore := RecordStore.Holds.consumptionLength_eq hstores
    have hafter := hnext.consumptionLength_eq
    rw [List.length_cons] at hbefore
    rw [nextTelemetry, hpop]
    refine { node.books_self with records := ?_ }
    simp [pending, hbefore, hafter]
    omega

theorem books_commitTelemetry {node : Node} (h : node.Invariant) (count : Nat) :
    Books node [] (node.commitTelemetry count).2 := by
  induction count generalizing node with
  | zero => exact node.books_self
  | succ count ih =>
    have hfirst := books_nextTelemetry h
    have hnext := h.nextTelemetry
    rw [commitTelemetry]
    cases heq : node.nextTelemetry with
    | mk record next =>
      rw [heq] at hfirst hnext
      cases record with
      | none => exact hfirst
      | some record => exact hfirst.trans (ih hnext)

theorem books_encodeWithPending {node : Node} (h : node.Invariant) (message : Message) :
    Books node [] (node.encodeWithPending message).2 := by
  unfold encodeWithPending
  simp only
  split
  · exact node.books_self
  · split
    · exact node.books_self
    · exact books_commitTelemetry h _

theorem embedEvents_of_none {node : Node} (hnone : node.carrier = none) (frame : Frame) :
    node.embedEvents frame = [] := by
  rw [embedEvents, embed, hnone]

theorem prepareOutgoing_of_data {node decided : Node} {frame : Frame} {origin : TrafficOrigin}
    (hdata : frame.kind.carriesTelemetry = true)
    (hdecided : (node.afterSeen.applyBudget frame.length origin).2 = decided) :
    node.prepareOutgoing frame origin =
      if decided.carrier.isSome then
        ((decided.embed frame).1.toOption.getD 0,
          (decided.embed frame).2.1.capture (decided.embed frame).2.2.wire,
          (decided.embed frame).2.2)
      else (0, decided.capture frame.wire, frame) := by
  subst hdecided
  exact if_pos hdata

/-- A data frame leaves when the budget is applied and what it has left is embedded. -/
theorem prepareOutgoing_stages (node : Node) {frame : Frame}
    (hdata : frame.kind.carriesTelemetry = true) (origin : TrafficOrigin) :
    let decided := (node.afterSeen.applyBudget frame.length origin).2
    let left := if decided.carrier.isSome then (decided.embed frame).2.1 else decided
    ∃ wire, (node.prepareOutgoing frame origin).2.1 = left.capture wire := by
  intro decided left
  rw [prepareOutgoing_of_data hdata rfl]
  simp only [left]
  split
  · exact ⟨_, rfl⟩
  · exact ⟨_, rfl⟩

theorem books_prepareOutgoing (node : Node) (frame : Frame) (origin : TrafficOrigin) :
    Books node (node.events (.prepareOutgoing frame origin))
      (node.prepareOutgoing frame origin).2.1 := by
  have hseen : Books node [] node.afterSeen := { node.books_self with }
  cases hkind : frame.kind.carriesTelemetry with
  | false =>
    rw [events, prepareOutgoing, if_neg (by simp [hkind]), if_neg (by simp [hkind])]
    exact { node.books_self with }
  | true =>
    obtain ⟨wire, heq⟩ := node.prepareOutgoing_stages hkind origin
    rw [events, if_pos hkind, heq]
    refine Books.capture ?_ wire
    have hdecided := hseen.trans (node.afterSeen.books_applyBudget frame.length origin)
    split
    · exact hdecided.trans (books_embed _ frame)
    · rename_i hnone
      rw [embedEvents_of_none (by simpa using hnone), List.append_nil]
      exact hdecided

theorem books_perform {node : Node} (h : node.Invariant) (operation : Operation) :
    Books node (node.events operation) (node.perform operation) := by
  cases operation with
  | applyBudget frameLength origin => exact node.books_applyBudget frameLength origin
  | embed frame => exact node.books_embed frame
  | extract frame destinedHere => exact books_extract h frame destinedHere
  | receiveFrame frame destinedHere =>
    have hcaptured := node.books_self.capture frame.wire
    exact hcaptured.trans (books_extract (h.capture frame.wire) frame destinedHere)
  | prepareOutgoing frame origin => exact node.books_prepareOutgoing frame origin
  | nextTelemetry => exact books_nextTelemetry h
  | commitTelemetry count => exact books_commitTelemetry h count
  | encodeWithPending message => exact books_encodeWithPending h message
  | setEnvironment environment | setRecorder recorder => exact { node.books_self with }

theorem books_performAll {node : Node} (h : node.Invariant) (operations : List Operation) :
    Books node (node.eventsOf operations) (node.performAll operations) := by
  induction operations generalizing node with
  | nil => exact node.books_self
  | cons operation operations ih =>
    exact (books_perform h operation).trans (ih (h.perform operation))

/-- The frame that the operation may embed a carrier into. -/
def Operation.outgoing? : Operation → Option Frame
  | .embed frame | .prepareOutgoing frame _ => some frame
  | .applyBudget _ _ | .extract _ _ | .receiveFrame _ _ | .nextTelemetry | .commitTelemetry _
  | .encodeWithPending _ | .setEnvironment _ | .setRecorder _ => none

/-- A frame grows by what the node says it has added. -/
theorem growth_of_mem_embedEvents {node : Node} {frame : Frame} (hframe : frame.Reachable)
    {event : Event} (hmem : event ∈ node.embedEvents frame) : event.growth = event.written := by
  unfold embedEvents embed at hmem
  cases hcarrier : node.carrier with
  | none =>
    rw [hcarrier] at hmem
    cases hmem
  | some header =>
    rw [hcarrier] at hmem
    simp only at hmem
    cases hembed : frame.embed ⟨header, node.store.drainCarrier.1⟩ with
    | error err =>
      rw [hembed] at hmem
      cases hmem
    | ok embedded =>
      obtain ⟨written, raised⟩ := embedded
      rw [hembed] at hmem
      obtain rfl := List.mem_singleton.mp hmem
      obtain ⟨_, rfl, region, allocated, halloc, rfl⟩ := Frame.embed_eq_ok_iff.mp hembed
      -- Announcing elements does not make the frame longer.
      have hlength : ((allocated.writeHeader _).setHasElements true).length = _ :=
        hframe.wellFormed.length_written halloc
      simp only [Event.growth, Event.written, hlength]
      omega

theorem growth_of_mem_budgetEvents {node : Node} {frameLength : Nat} {origin : TrafficOrigin}
    {event : Event} (hmem : event ∈ node.budgetEvents frameLength origin) :
    event.growth = event.written := by
  simp only [budgetEvents, resetEvents, decisionEvents, outcomeEvents, List.mem_append,
    List.mem_ite_nil_right, List.mem_singleton] at hmem
  rcases hmem with ⟨_, rfl⟩ | ⟨_, rfl⟩ | ⟨_, rfl⟩ <;> rfl

theorem growth_of_mem_extractEvents {node : Node} {frame : Frame} {destinedHere : Bool}
    {event : Event} (hmem : event ∈ node.extractEvents frame destinedHere) :
    event.growth = event.written := by
  unfold extractEvents at hmem
  split at hmem
  · simp only [cutEvents, List.mem_append, List.mem_replicate, List.mem_ite_nil_right,
      List.mem_singleton] at hmem
    rcases hmem with ⟨_, rfl⟩ | ⟨_, rfl⟩ <;> rfl
  · cases hmem
  · cases hmem

theorem growth_of_mem_events {node : Node} {operation : Operation}
    (hframe : ∀ frame ∈ operation.outgoing?, frame.Reachable) {event : Event}
    (hmem : event ∈ node.events operation) : event.growth = event.written := by
  cases operation with
  | applyBudget => exact growth_of_mem_budgetEvents hmem
  | embed frame => exact growth_of_mem_embedEvents (hframe frame rfl) hmem
  | extract | receiveFrame => exact growth_of_mem_extractEvents hmem
  | prepareOutgoing frame origin =>
    rw [events, List.mem_ite_nil_right, List.mem_append] at hmem
    obtain ⟨_, hbudget | hembed⟩ := hmem
    · exact growth_of_mem_budgetEvents hbudget
    · exact growth_of_mem_embedEvents (hframe frame rfl) hembed
  | nextTelemetry | commitTelemetry | encodeWithPending | setEnvironment | setRecorder =>
    cases hmem

theorem mem_eventsOf {node : Node} {operations : List Operation} {event : Event}
    (hmem : event ∈ node.eventsOf operations) :
    ∃ operation ∈ operations, ∃ reached : Node, event ∈ reached.events operation := by
  induction operations generalizing node with
  | nil => cases hmem
  | cons operation operations ih =>
    rcases List.mem_append.mp hmem with hfirst | hrest
    · exact ⟨operation, List.mem_cons_self, node, hfirst⟩
    · obtain ⟨other, hother, reached, hevent⟩ := ih hrest
      exact ⟨other, List.mem_cons_of_mem _ hother, reached, hevent⟩

theorem sum_growth {events : List Event} (h : ∀ event ∈ events, event.growth = event.written) :
    (events.map Event.growth).sum = ((events.map Event.written).sum : Nat) := by
  induction events with
  | nil => rfl
  | cons event events ih =>
    rw [List.forall_mem_cons] at h
    rw [List.map_cons, List.sum_cons, h.1, ih h.2, List.map_cons, List.sum_cons, Int.natCast_add]

/-- What the counters of a node say about the events of its past. -/
structure Ledger (node : Node) (events : List Event) : Prop where
  carriers : node.counters.carriersCreated + node.counters.carriersReceived
    = node.counters.framesEmbedded + node.counters.embedFailures + node.counters.carriersDiscarded
      + events.count .reset + node.carrier.isSome.toNat
  records : node.counters.recordsReceived
    = node.counters.recordsConsumed + node.pending + events.count .refused
  exhaustions : node.counters.poolExhaustions
    = events.count .refused + events.count .exhausted + events.count .cut
  admissions : node.counters.recordsAdmitted + node.counters.recordsSampledOut
    + node.counters.recordsNotSelected + events.count .exhausted = events.count .accepted

theorem start_eq_ok {settings : Settings} {environment : Environment} {node : Node}
    (h : Node.start settings environment = .ok node) :
    node.counters = {} ∧ node.carrier = none ∧ node.pending = 0 := by
  obtain ⟨_, _, hnode⟩ := bind_eq_ok_iff.mp h
  cases hnode
  exact ⟨rfl, rfl, rfl⟩

/-- At the start all counters are zero and nothing is in hand, so that only the events count. -/
theorem Books.ledger {settings : Settings} {environment : Environment} {node reached : Node}
    {events : List Event} (hstart : Node.start settings environment = .ok node)
    (h : Books node events reached) :
    Ledger reached events ∧
      reached.counters.telemetryBytesSent = (events.map Event.written).sum := by
  obtain ⟨hcounters, hcarrier, hpending⟩ := start_eq_ok hstart
  obtain ⟨hcarriers, hrecords, hexhaustions, hadmissions, hbytes⟩ := h
  simp only [carrierBalance, recordBalance, admissionsCounted, hcounters, hcarrier, hpending,
    Option.isSome_none, Bool.toNat_false] at hcarriers hrecords hexhaustions hadmissions hbytes
  refine ⟨⟨?_, ?_, ?_, ?_⟩, ?_⟩
  all_goals omega

/-- **The ledger of a node.** At every point of every run from a start, the counters agree with each
other, with what the node holds and with what has happened to it. The bytes that it has counted are
those by which frames have grown. -/
theorem ledger_performAll {settings : Settings} {environment : Environment} {node : Node}
    (hstart : Node.start settings environment = .ok node) (operations : List Operation) :
    Ledger (node.performAll operations) (node.eventsOf operations) ∧
      ((∀ operation ∈ operations, ∀ frame ∈ operation.outgoing?, frame.Reachable) →
        (node.performAll operations).counters.telemetryBytesSent
          = ((node.eventsOf operations).map Event.growth).sum) := by
  obtain ⟨hledger, hbytes⟩ := (books_performAll (.start hstart) operations).ledger hstart
  refine ⟨hledger, ?_⟩
  intro hframes
  rw [hbytes, sum_growth]
  intro event hmem
  obtain ⟨operation, hoperation, reached, hevent⟩ := mem_eventsOf hmem
  exact growth_of_mem_events (hframes operation hoperation) hevent

/-- A node drops its first carrier, sends the second and loses the third, which it has taken over,
in a frame without room. -/
theorem ledger_performAll_threeCarriers :
    let frame : Frame := .incoming .data [] true
      [0x00, 0x3F, 0x09, 0xA8, 0x2A, 0xA0, 0x01, 0xFF, 0x0A, 0x00, 0x00, 0x01, 0xC4, 0x00, 0xF8,
        0x07]
    let operations : List Operation :=
      [.applyBudget 20 .originator, .prepareOutgoing (.outgoing .data [] [7]) .originator,
        .receiveFrame frame false, .embed (.withHeaderRoom .data [] [] 0), .nextTelemetry]
    ∃ node, Node.start {} { nodeId := 1 } = .ok node ∧
      Ledger (node.performAll operations) (node.eventsOf operations) ∧
        (node.eventsOf operations).count .reset = 1 ∧
          (node.performAll operations).counters.embedFailures = 1 ∧
            (node.performAll operations).counters.telemetryBytesSent
              = ((node.eventsOf operations).map Event.growth).sum ∧
                (node.performAll operations).counters.telemetryBytesSent = 15 := by
  intro frame operations
  let node : Node :=
    { settings := {}
      environment := { nodeId := 1 }
      store := .ofCapacities 32 256 }
  have hstart : Node.start {} { nodeId := 1 } = .ok node := rfl
  have hframes : ∀ operation ∈ operations, ∀ frame ∈ operation.outgoing?, frame.Reachable := by
    intro operation hmem sent hsent
    simp only [operations, List.mem_cons, List.not_mem_nil, or_false] at hmem
    rcases hmem with rfl | rfl | rfl | rfl | rfl
    · cases hsent
    · cases hsent
      exact .outgoing _ _ _ _
    · cases hsent
    · cases hsent
      exact .outgoing _ _ _ _
    · cases hsent
  obtain ⟨hledger, hbytes⟩ := ledger_performAll hstart operations
  have hresets : (node.eventsOf operations).count .reset = 1 := by decide +kernel
  have hfailures : (node.performAll operations).counters.embedFailures = 1 := by decide +kernel
  have hsent : (node.performAll operations).counters.telemetryBytesSent = 15 := by decide +kernel
  exact ⟨node, hstart, hledger, hresets, hfailures, hbytes hframes, hsent⟩

end Node

end MeshTelemetry
