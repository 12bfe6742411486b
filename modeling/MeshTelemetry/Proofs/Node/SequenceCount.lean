import MeshTelemetry.Proofs.Node.CarrierWay
import MeshTelemetry.Proofs.Node.ExactAdmission

/-!
# What the sequence counts

The sequence of a carrier goes up by one with each record that a node adds to it, and with nothing
else: not when the carrier is marked or truncated, not on its way through a frame, and not when a
node takes it over. So along any way it has grown by the number of records added on that way, and a
carrier shows by its sequence how many records have entered it since it was made, up to wrapping.
Records that were lost on the way are counted too.
-/

namespace MeshTelemetry

/-- The records that have entered the carrier, one or none. -/
def AdmissionOutcome.admissions : AdmissionOutcome → Nat
  | .admitted _ => 1
  | .noCarrier | .discarded | .truncated _ | .held _ | .sampledOut | .notSelected
  | .poolExhausted => 0

open CarrierPlace

namespace Node

/-- The records that the operation adds to a carrier. -/
def admissions (node : Node) : Operation → Nat
  | .applyBudget frameLength origin => (node.applyBudget frameLength origin).1.admissions
  | .prepareOutgoing frame origin =>
    if frame.kind.carriesTelemetry then
      (node.afterSeen.applyBudget frame.length origin).1.admissions
    else 0
  | .embed _ | .extract _ _ | .receiveFrame _ _ | .nextTelemetry | .commitTelemetry _
  | .encodeWithPending _ | .setEnvironment _ | .setRecorder _ => 0

section

variable {node : Node} {frameLength : Nat} {origin : TrafficOrigin} {outcome : AdmissionOutcome}
  {header after : TelemetryHeader} {carried others : List Record}

theorem Admission.sequence {decision : BudgetDecision}
    (h : Admission node origin header carried decision outcome (some after) others) :
    after.sequence = header.sequence + UInt8.ofNat outcome.admissions := by
  cases h with
  | admitted => rfl
  | truncated | forwarded | marked | sampledOut | notSelected | poolExhausted =>
    exact (UInt8.add_zero _).symm

variable {deciding : Node} {operation : Operation}

theorem AppliesBudget.admissions_eq
    (happlies : node.AppliesBudget operation deciding frameLength origin) :
    node.admissions operation = (deciding.applyBudget frameLength origin).1.admissions := by
  cases happlies with
  | atOnce => rfl
  | leaving hdata => exact if_pos hdata

/-- Only an applied budget can add a record. -/
theorem admissions_eq_zero
    (hother : ∀ deciding frameLength origin,
      ¬ node.AppliesBudget operation deciding frameLength origin) :
    node.admissions operation = 0 := by
  cases operation with
  | applyBudget frameLength origin => exact absurd (.atOnce frameLength origin) (hother _ _ _)
  | prepareOutgoing frame origin =>
    exact if_neg fun hdata => hother _ _ _ (.leaving hdata origin)
  | _ => rfl

end

theorem takenHeader_sequence (node : Node) (content : TelemetryContent) :
    (node.takenHeader content).sequence = content.header.sequence := by
  unfold takenHeader
  split <;> rfl

end Node

/-- The records that have entered the carrier on a way. -/
def admissionsOn (performed : List (Node × Node.Operation)) : Nat :=
  (performed.map fun done => done.1.admissions done.2).sum

theorem admissionsOn_append (performed others : List (Node × Node.Operation)) :
    admissionsOn (performed ++ others) = admissionsOn performed + admissionsOn others := by
  rw [admissionsOn, List.map_append, List.sum_append]
  rfl

theorem admissionsOn_singleton (done : Node × Node.Operation) :
    admissionsOn [done] = done.1.admissions done.2 :=
  List.sum_singleton

/-- A way from `start` on, with the number of records that have entered the carrier on it. -/
def CountedWay (start : CarrierPlace) (count : Nat) (later : CarrierPlace) : Prop :=
  ∃ performed, PerformedWay start performed later ∧ admissionsOn performed = count

/-- Every way can be counted, and what is counted are ways. -/
theorem exists_countedWay_iff {start later : CarrierPlace} :
    (∃ count, CountedWay start count later) ↔ Relation.ReflTransGen CarrierStep start later := by
  rw [← exists_performedWay_iff]
  constructor
  · rintro ⟨_, performed, hway, _⟩
    exact ⟨performed, hway⟩
  · rintro ⟨performed, hway⟩
    exact ⟨_, performed, hway, rfl⟩

/-- One step: the sequence goes up by the records that enter the carrier. -/
theorem CarrierChange.sequence {layout : RecordLayout} {before after : TelemetryContent}
    {done : Node × Node.Operation} {channels : List Nat}
    (hchange : CarrierChange layout before done channels after) :
    after.header.sequence
      = before.header.sequence + UInt8.ofNat (done.1.admissions done.2) := by
  cases hchange with
  | decided happlies hbudgeted =>
    rw [happlies.admissions_eq, ← happlies.contentFor_eq]
    exact (hbudgeted.admission (Option.some_ne_none _)).sequence
  | unchanged _ hother =>
    rw [Node.admissions_eq_zero hother]
    exact (UInt8.add_zero _).symm
  | @taken node hearing _ operation _ _ _ content _ hextracts _ _ hheader =>
    have hzero : node.admissions operation = 0 := by cases hextracts <;> rfl
    rw [hzero, ← hheader]
    exact (hearing.takenHeader_sequence content).trans (UInt8.add_zero _).symm

/-- A way: the counts of its steps add up. -/
theorem CountedWay.sequence {start later : CarrierPlace} {count : Nat} {before : TelemetryContent}
    (hway : CountedWay start count later) (hstart : start.node.Reachable)
    (hbefore : start.content? = some before) :
    ∃ after, later.content? = some after ∧
      after.header.sequence = before.header.sequence + UInt8.ofNat count := by
  obtain ⟨performed, hway, rfl⟩ := hway
  refine (hway.leads (fun performed before after => after.header.sequence
    = before.header.sequence + UInt8.ofNat (admissionsOn performed)) ?_ ?_ ?_ hstart hbefore).2
  · intro content
    exact (UInt8.add_zero _).symm
  · intro performed others before between after hfirst hsecond
    calc after.header.sequence
        = between.header.sequence + UInt8.ofNat (admissionsOn others) := hsecond
      _ = before.header.sequence + UInt8.ofNat (admissionsOn performed)
          + UInt8.ofNat (admissionsOn others) := by rw [hfirst]
      _ = before.header.sequence + UInt8.ofNat (admissionsOn (performed ++ others)) := by
        rw [admissionsOn_append, UInt8.add_assoc, ← UInt8.ofNat_add]
  · intro layout before done channels after hchange
    rw [admissionsOn_singleton]
    exact hchange.sequence

/-- **Admission is exact.** When the budget has room for a record, the draw, the bitmap and the pool
decide about it as they are listed, and the record and the count are added together or not at all.
So along any way of a carrier its sequence grows by the number of records added on the way, and where
the carrier was made on it the sequence is that number up to wrapping. -/
theorem sequence_counts_admissions {node : Node} (hnode : node.Reachable) :
    (∀ frameLength origin slots ready,
      (node.resetFor origin).decision frameLength = (.accept slots, ready) →
        ready.settings = node.settings ∧ ready.environment = node.environment ∧
          ∃ header outcome next, ready.carrier = some header ∧
            node.applyBudget frameLength origin = (outcome, next) ∧
              ready.Accepts slots origin header outcome next) ∧
      ∀ start later content, start.node = node → start.content? = some content →
        (Relation.ReflTransGen CarrierStep start later ↔ ∃ count, CountedWay start count later) ∧
          ∀ count, CountedWay start count later →
            ∃ after, later.content? = some after ∧
              after.header.sequence = content.header.sequence + UInt8.ofNat count ∧
              (start = made node → after.header.sequence.toNat = count % 256) := by
  refine ⟨?_, ?_⟩
  · intro frameLength origin slots ready hdecision
    obtain ⟨hsettings, henvironment⟩ := node.decision_keeps frameLength origin
    rw [hdecision] at hsettings henvironment
    exact ⟨hsettings, henvironment, Node.accepts_of_decision hnode.invariant hdecision⟩
  · rintro start later content rfl hcontent
    refine ⟨exists_countedWay_iff.symm, ?_⟩
    intro count hway
    obtain ⟨after, hafter, hsequence⟩ := hway.sequence hnode hcontent
    refine ⟨after, hafter, hsequence, ?_⟩
    intro hmade
    -- A fresh header has the sequence zero.
    rw [hmade] at hcontent
    cases hcontent
    rw [hsequence, UInt8.toNat_add, UInt8.toNat_ofNat']
    exact (congrArg (· % 256) (Nat.zero_add _)).trans (Nat.mod_mod count 256)

namespace Node

/-- A node 30 hops from the root. With twelve slots left, a draw of 39 is the last one that is for
it. -/
def farNode : Node where
  settings := { sampling := .rootDistanceWeighted }
  environment := { nodeId := 1, rootDistance := 30, draws := [39, 7] }
  store := .ofCapacities 32 256

/-- The node adds its record to the carrier that it makes, and one draw is left. -/
theorem sequence_counts_admissions_farNode :
    farNode.Reachable ∧
      ∃ ready next, (farNode.resetFor .originator).decision 50 = (.accept 12, ready) ∧
        farNode.applyBudget 50 .originator = (.admitted 1, next) ∧
          next.environment = { farNode.environment with draws := [7] } ∧
            ∃ after, (held (farNode.perform (.applyBudget 50 .originator))).content? = some after ∧
              after.header.sequence.toNat = 1 := by
  have hnode : farNode.Reachable :=
    @Reachable.start { sampling := .rootDistanceWeighted } farNode.environment _ rfl
  obtain ⟨hadmits, hcounts⟩ := sequence_counts_admissions hnode
  have hslots : ((farNode.resetFor .originator).decision 50).1 = .accept 12 := by decide +kernel
  have hdecision : (farNode.resetFor .originator).decision 50
      = (.accept 12, ((farNode.resetFor .originator).decision 50).2) := Prod.ext hslots rfl
  have hadmitted : (farNode.applyBudget 50 .originator).1 = .admitted 1 := by decide +kernel
  obtain ⟨_, _, header, outcome, next, _, happly, haccepts⟩ := hadmits _ _ _ _ hdecision
  obtain rfl : outcome = .admitted 1 := by rw [← hadmitted, happly]
  have hdrawn : ((farNode.resetFor .originator).decision 50).2.drawnEnvironment
      = { farNode.environment with draws := [7] } := by decide +kernel
  have hway : CountedWay (made farNode) 1
      (held (farNode.perform (.applyBudget 50 .originator))) := by
    refine ⟨_, .step .start (.created rfl (by decide +kernel)), ?_⟩
    rw [List.nil_append, admissionsOn_singleton, admissions, hadmitted]
    rfl
  obtain ⟨_, hways⟩ := hcounts (made farNode) _ _ rfl rfl
  obtain ⟨after, hafter, _, hsequence⟩ := hways _ hway
  exact ⟨hnode, _, next, hdecision, happly, haccepts.environment.trans hdrawn, after, hafter,
    hsequence rfl⟩

end Node

end MeshTelemetry
