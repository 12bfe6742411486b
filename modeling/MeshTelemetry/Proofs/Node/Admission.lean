import MeshTelemetry.Node.Admission
import MeshTelemetry.Proofs.Node.Invariant
import MeshTelemetry.Proofs.Telemetry.Content

/-!
# What the budget makes of a carrier

A decision about a carrier has one of a few outcomes, and each of them fixes what becomes of the
header and of the records. Everything that is said about admission follows from this list, be it
that the invariant is kept or that the frame will fit.
-/

namespace MeshTelemetry

namespace Node

/-- What becomes of a carrier with this header and these records, decision by decision. -/
inductive Admission (node : Node) (origin : TrafficOrigin) (header : TelemetryHeader)
    (carried : List Record) :
    BudgetDecision → AdmissionOutcome → Option TelemetryHeader → List Record → Prop where
  | discarded : Admission node origin header carried .discard .discarded none []
  | truncated :
      Admission node origin header carried .truncate (.truncated carried.length)
        (some header.setOverflowed) []
  | forwarded :
      Admission node origin header carried (.hold false) (.held false) (some header) carried
  | marked :
      Admission node origin header carried (.hold true) (.held true) (some header.setOverflowed)
        carried
  | sampledOut (slots : Nat) :
      node.settings.sampling = .rootDistanceWeighted →
      Admission node origin header carried (.accept slots) .sampledOut (some header) carried
  | notSelected (slots : Nat) :
      node.ownRecord? header.bitmap origin = none →
      Admission node origin header carried (.accept slots) .notSelected (some header) carried
  | poolExhausted (slots : Nat) :
      carried.length = node.settings.carrierCapacity →
      Admission node origin header carried (.accept slots) .poolExhausted (some header) carried
  | admitted (slots : Nat) {record : Record} :
      node.ownRecord? header.bitmap origin = some record →
      Admission node origin header carried (.accept slots) (.admitted (header.sequence + 1))
        (some { header with sequence := header.sequence + 1 }) (carried ++ [record])

theorem drawBelow_eq (environment : Environment) (bound : Nat) :
    ∃ draw draws, environment.drawBelow bound = (draw, { environment with draws := draws }) := by
  unfold Environment.drawBelow
  split
  · exact ⟨0, environment.draws, rfl⟩
  · split
    · exact ⟨0, environment.draws, rfl⟩
    · exact ⟨_, _, rfl⟩

/-- A draw takes from the random source and changes nothing else. -/
theorem drawsIn_eq (node : Node) (remainingSlots : Nat) :
    ∃ drawn draws, node.drawsIn remainingSlots
        = (drawn, { node with environment := { node.environment with draws := draws } }) ∧
      (drawn = false → node.settings.sampling = .rootDistanceWeighted) := by
  unfold drawsIn
  split
  · exact ⟨true, node.environment.draws, rfl, fun h => nomatch h⟩
  · rename_i hsampling
    split
    · obtain ⟨draw, draws, hdraw⟩ := drawBelow_eq node.environment drawRange
      rw [hdraw]
      exact ⟨_, draws, rfl, fun _ => hsampling⟩
    · exact ⟨false, node.environment.draws, rfl, fun _ => hsampling⟩

section

variable {node : Node} {origin : TrafficOrigin} {header : TelemetryHeader}

/-- A node that may add its record does so if the bitmap selects it and the pool has a slot. -/
theorem addOwnRecord_spec (h : node.Invariant) (hheader : node.carrier = some header)
    (slots : Nat) :
    ∃ outcome next carrier carried, node.addOwnRecord origin = (outcome, next) ∧
      Admission node origin header node.carrierRecords (.accept slots) outcome carrier carried ∧
        node.Becomes next carrier carried := by
  unfold addOwnRecord
  rw [hheader]
  simp only
  cases hrecord : node.ownRecord? header.bitmap origin with
  | none =>
    exact ⟨_, _, _, _, rfl, .notSelected slots hrecord, ⟨rfl, ⟨_, rfl⟩, rfl, h.stores⟩⟩
  | some record =>
    by_cases hfull : node.carrierRecords.length = node.settings.carrierCapacity
    · have hpush := h.stores.pushCarrier_full record hfull
      simp only [hpush]
      exact ⟨_, _, _, _, rfl, .poolExhausted slots hfull, ⟨rfl, ⟨_, rfl⟩, rfl, h.stores⟩⟩
    · have hroom := Nat.lt_of_le_of_ne h.stores.carrier.length_le hfull
      obtain ⟨store, hpush, hstores⟩ := h.stores.pushCarrier record hroom
      simp only [hpush]
      exact ⟨_, _, _, _, rfl, .admitted slots hrecord, ⟨rfl, ⟨_, rfl⟩, rfl, hstores⟩⟩

theorem acceptRecord_spec (h : node.Invariant) (hheader : node.carrier = some header)
    (slots : Nat) :
    ∃ outcome next carrier carried, node.acceptRecord slots origin = (outcome, next) ∧
      Admission node origin header node.carrierRecords (.accept slots) outcome carrier carried ∧
        node.Becomes next carrier carried := by
  obtain ⟨drawn, draws, hdraws, hsampling⟩ := node.drawsIn_eq slots
  have hdrawn := h.withEnvironment { node.environment with draws := draws }
  unfold acceptRecord
  rw [hdraws]
  cases drawn with
  | false =>
    exact ⟨_, _, _, _, rfl, .sampledOut slots (hsampling rfl), ⟨rfl, ⟨draws, rfl⟩, hheader, h.stores⟩⟩
  | true =>
    obtain ⟨outcome, next, carrier, carried, heq, hadmission, hbecomes⟩ :=
      @addOwnRecord_spec _ origin header hdrawn hheader slots
    have hdrew : node.Becomes { node with
        environment := { node.environment with draws := draws } } node.carrier
        node.carrierRecords := ⟨rfl, ⟨draws, rfl⟩, rfl, h.stores⟩
    refine ⟨outcome, next, carrier, carried, heq, ?_, hdrew.trans hbecomes⟩
    cases hadmission with
    | sampledOut _ hsampled => exact .sampledOut slots hsampled
    | notSelected _ hrecord => exact .notSelected slots hrecord
    | poolExhausted _ hfull => exact .poolExhausted slots hfull
    | admitted _ hrecord => exact .admitted slots hrecord

/-- Every decision about a carrier that exists is carried out in one of the listed ways. -/
theorem carryOut_spec (h : node.Invariant) (hheader : node.carrier = some header)
    {decision : BudgetDecision} (hskip : decision ≠ .skip) (hcreate : decision ≠ .create) :
    ∃ outcome next carrier carried, node.carryOut origin decision = (outcome, next) ∧
      Admission node origin header node.carrierRecords decision outcome carrier carried ∧
        node.Becomes next carrier carried := by
  cases decision with
  | skip => exact absurd rfl hskip
  | create => exact absurd rfl hcreate
  | discard => exact ⟨_, _, _, _, rfl, .discarded, h.becomes_freeCarrier.withCounters _⟩
  | truncate =>
    obtain ⟨store, hclear, hstores⟩ := h.stores.clearCarrier
    have hcleared : node.Becomes { node with
        store := store
        counters.recordsDropped := node.counters.recordsDropped + node.carrierRecords.length }
        (some header) [] := ⟨rfl, ⟨_, rfl⟩, hheader, hstores⟩
    rw [carryOut, truncateCarrier, hclear]
    exact ⟨_, _, _, _, rfl, .truncated, hcleared.setOverflow⟩
  | hold overflow =>
    have hself := h.becomes_self
    rw [hheader] at hself
    cases overflow with
    | false => exact ⟨_, _, _, _, rfl, .forwarded, hself⟩
    | true => exact ⟨_, _, _, _, rfl, .marked, hself.setOverflow⟩
  | accept slots => exact acceptRecord_spec h hheader slots

end

/-- What an outgoing frame finds: an originator has dropped what it had in hand. -/
def carrierFor (node : Node) : TrafficOrigin → Option TelemetryHeader
  | .originator => none
  | .forwarder => node.carrier

/-- The records that go with that carrier. -/
def recordsFor (node : Node) : TrafficOrigin → List Record
  | .originator => []
  | .forwarder => node.carrierRecords

/-- What becomes of the carrier when the budget is applied to a frame of this length. -/
inductive Budgeted (node : Node) (frameLength : Nat) (origin : TrafficOrigin) :
    AdmissionOutcome → Option TelemetryHeader → List Record → Prop where
  | skipped :
      node.carrierFor origin = none →
      node.budget.evaluate frameLength none = .skip →
      Budgeted node frameLength origin .noCarrier none []
  | created {outcome : AdmissionOutcome} {carrier : Option TelemetryHeader}
      {carried : List Record} :
      node.carrierFor origin = none →
      node.budget.evaluate frameLength none = .create →
      Admission node origin node.freshHeader []
        (node.budget.evaluate frameLength (some ⟨0, node.freshHeader.isOverflowed⟩)) outcome carrier
        carried →
      Budgeted node frameLength origin outcome carrier carried
  | carried {header : TelemetryHeader} {outcome : AdmissionOutcome}
      {carrier : Option TelemetryHeader} {carried : List Record} :
      node.carrierFor origin = some header →
      Admission node origin header node.carrierRecords
        (node.budget.evaluate frameLength
          (some ⟨node.carrierRecords.length, header.isOverflowed⟩)) outcome carrier carried →
      Budgeted node frameLength origin outcome carrier carried

/-- What the budget decides about: the content in hand, or a fresh one. -/
def contentFor (node : Node) (origin : TrafficOrigin) : TelemetryContent :=
  match node.carrierFor origin with
  | none => ⟨node.freshHeader, []⟩
  | some header => ⟨header, node.carrierRecords⟩

section

variable {node : Node} {frameLength : Nat} {origin : TrafficOrigin} {outcome : AdmissionOutcome}
  {carrier : Option TelemetryHeader} {carried : List Record}

theorem contentFor_of_none (h : node.carrierFor origin = none) :
    node.contentFor origin = ⟨node.freshHeader, []⟩ := by
  rw [contentFor, h]

theorem contentFor_of_some {header : TelemetryHeader} (h : node.carrierFor origin = some header) :
    node.contentFor origin = ⟨header, node.carrierRecords⟩ := by
  rw [contentFor, h]

/-- The frame goes without a carrier, or there is a decision about the content in hand or a fresh
one. -/
theorem Budgeted.skipped_or_admission
    (h : Budgeted node frameLength origin outcome carrier carried) :
    (outcome = .noCarrier ∧ carrier = none ∧ carried = [] ∧
        node.budget.evaluate frameLength none = .skip) ∨
      Admission node origin (node.contentFor origin).header (node.contentFor origin).records
        (node.budget.evaluate frameLength
          (some ⟨(node.contentFor origin).records.length,
            (node.contentFor origin).header.isOverflowed⟩))
        outcome carrier carried := by
  cases h with
  | skipped _ hskip => exact .inl ⟨rfl, rfl, rfl, hskip⟩
  | created hnone _ hadmission =>
    rw [contentFor_of_none hnone]
    exact .inr hadmission
  | carried hsome hadmission =>
    rw [contentFor_of_some hsome]
    exact .inr hadmission

/-- Where there is a carrier afterwards, there was a decision. -/
theorem Budgeted.admission (h : Budgeted node frameLength origin outcome carrier carried)
    (hcarrier : carrier ≠ none) :
    Admission node origin (node.contentFor origin).header (node.contentFor origin).records
      (node.budget.evaluate frameLength
        (some ⟨(node.contentFor origin).records.length,
          (node.contentFor origin).header.isOverflowed⟩))
      outcome carrier carried := by
  rcases h.skipped_or_admission with ⟨_, hnone, _⟩ | hadmission
  · exact absurd hnone hcarrier
  · exact hadmission

end

theorem recordsFor_eq {node : Node} {origin : TrafficOrigin} {header : TelemetryHeader}
    (h : node.carrierFor origin = some header) : node.recordsFor origin = node.carrierRecords := by
  cases origin with
  | originator => cases h
  | forwarder => rfl

theorem Invariant.mayCarry_for {node : Node} (h : node.Invariant) (origin : TrafficOrigin) :
    node.settings.MayCarry (node.carrierFor origin) (node.recordsFor origin) := by
  cases origin with
  | originator => exact .none
  | forwarder => exact h.mayCarry

theorem Invariant.mayCarry_contentFor {node : Node} (h : node.Invariant) (origin : TrafficOrigin) :
    node.settings.MayCarry (some (node.contentFor origin).header)
      (node.contentFor origin).records := by
  cases hfor : node.carrierFor origin with
  | none =>
    rw [contentFor_of_none hfor]
    exact .some rfl fun _ hmem => nomatch hmem
  | some header =>
    have hcarry := h.mayCarry_for origin
    rw [recordsFor_eq hfor, hfor] at hcarry
    rw [contentFor_of_some hfor]
    exact hcarry

theorem becomes_resetFor {node : Node} (h : node.Invariant) (origin : TrafficOrigin) :
    node.Becomes (node.resetFor origin) (node.carrierFor origin) (node.recordsFor origin) := by
  cases origin with
  | forwarder => exact h.becomes_self
  | originator =>
    rw [resetFor]
    split
    · exact h.becomes_freeCarrier
    · rename_i hcarrier
      have hnone : node.carrier = none := by simpa using hcarrier
      have hself := h.becomes_self
      rwa [h.mayCarry.no_records hnone, hnone] at hself

theorem Admission.of_becomes {node next : Node} {origin : TrafficOrigin}
    {header : TelemetryHeader} {carried others : List Record} {decision : BudgetDecision}
    {outcome : AdmissionOutcome} {before after : Option TelemetryHeader}
    (hbecomes : node.Becomes next before carried)
    (h : Admission next origin header carried decision outcome after others) :
    Admission node origin header carried decision outcome after others := by
  cases h with
  | discarded => exact .discarded
  | truncated => exact .truncated
  | forwarded => exact .forwarded
  | marked => exact .marked
  | sampledOut slots hsampling =>
    rw [hbecomes.settings] at hsampling
    exact .sampledOut slots hsampling
  | notSelected slots hrecord =>
    rw [hbecomes.ownRecord?_eq] at hrecord
    exact .notSelected slots hrecord
  | poolExhausted slots hfull =>
    rw [hbecomes.settings] at hfull
    exact .poolExhausted slots hfull
  | admitted slots hrecord =>
    rw [hbecomes.ownRecord?_eq] at hrecord
    exact .admitted slots hrecord

/-- Carrying out the decision about a carrier in hand. -/
theorem carryOut_of_becomes {node ready : Node} {origin : TrafficOrigin}
    {header : TelemetryHeader} {carried : List Record} {decision : BudgetDecision}
    (hbecomes : node.Becomes ready (some header) carried) (hready : ready.Invariant)
    (hskip : decision ≠ .skip) (hcreate : decision ≠ .create) :
    ∃ outcome next carrier others, ready.carryOut origin decision = (outcome, next) ∧
      Admission node origin header carried decision outcome carrier others ∧
        node.Becomes next carrier others := by
  obtain ⟨outcome, next, carrier, others, heq, hadmission, hnext⟩ :=
    @carryOut_spec _ origin _ hready hbecomes.carrier _ hskip hcreate
  rw [hbecomes.carrierRecords_eq] at hadmission
  exact ⟨outcome, next, carrier, others, heq, hadmission.of_becomes hbecomes,
    hbecomes.trans hnext⟩

theorem load_of_becomes {node next : Node} {carrier : Option TelemetryHeader}
    {carried : List Record} (h : node.Becomes next carrier carried) :
    next.load = carrier.map fun header => ⟨carried.length, header.isOverflowed⟩ := by
  rw [load, h.carrier, RecordStore.Holds.carrierLength_eq h.stores]

theorem budget_of_becomes {node next : Node} {carrier : Option TelemetryHeader}
    {carried : List Record} (h : node.Becomes next carrier carried) : next.budget = node.budget := by
  rw [budget, h.settings]
  rfl

theorem decision_of_skip {node : Node} {frameLength : Nat} (hload : node.load = none)
    (hskip : node.budget.evaluate frameLength none = .skip) :
    node.decision frameLength = (.skip, node) := by
  rw [decision, hload, hskip]

theorem decision_of_create {node : Node} {frameLength : Nat} (hload : node.load = none)
    (hcreate : node.budget.evaluate frameLength none = .create) :
    ∃ counters, node.decision frameLength
      = (node.budget.evaluate frameLength
          (some ⟨node.store.carrierLength, node.freshHeader.isOverflowed⟩),
        { node with carrier := some node.freshHeader, counters := counters }) := by
  rw [decision, hload, hcreate]
  exact ⟨_, rfl⟩

theorem decision_of_load {node : Node} {frameLength : Nat} {load : CarrierLoad}
    (hload : node.load = some load) :
    node.decision frameLength = (node.budget.evaluate frameLength (some load), node) := by
  rw [decision, hload]
  split
  · rename_i hcreate
    exact absurd hcreate (node.budget.evaluate_some_ne frameLength load).2
  · rfl

theorem becomes_freshHeader {node next : Node} {counters : Counters}
    (h : node.Becomes next none []) :
    node.Becomes { next with carrier := some next.freshHeader, counters := counters }
      (some node.freshHeader) [] :=
  ⟨h.settings, h.environment, by rw [freshHeader, freshHeader, h.settings], h.stores⟩

/-- Without a carrier, the frame goes without or the node's fresh carrier is decided about. -/
theorem applyBudget_of_none {node : Node} (h : node.Invariant) (frameLength : Nat)
    {origin : TrafficOrigin} (hfor : node.carrierFor origin = none) :
    ∃ outcome next carrier carried, node.applyBudget frameLength origin = (outcome, next) ∧
      Budgeted node frameLength origin outcome carrier carried ∧
        node.Becomes next carrier carried := by
  have hreset := becomes_resetFor h origin
  rw [(h.mayCarry_for origin).no_records hfor, hfor] at hreset
  have hload := load_of_becomes hreset
  have hbudget := budget_of_becomes hreset
  rcases node.budget.evaluate_none_cases frameLength with hskip | hcreate
  · rw [applyBudget, decision_of_skip hload (by rw [hbudget, hskip])]
    exact ⟨_, _, _, _, rfl, .skipped hfor hskip, hreset⟩
  · -- The fresh carrier is decided about as one that was there, and with no records.
    obtain ⟨counters, hdecision⟩ := decision_of_create hload (by rw [hbudget, hcreate])
    have hfresh := @becomes_freshHeader _ _ counters hreset
    have hready := hfresh.invariant h (.some rfl fun _ hmem => nomatch hmem)
    have hlength : (node.resetFor origin).store.carrierLength = 0 :=
      RecordStore.Holds.carrierLength_eq hreset.stores
    have hheader : (node.resetFor origin).freshHeader = node.freshHeader := by
      rw [freshHeader, freshHeader, hreset.settings]
    obtain ⟨hskip, hcreate'⟩ := node.budget.evaluate_some_ne frameLength
      ⟨0, node.freshHeader.isOverflowed⟩
    obtain ⟨outcome, next, carrier, others, heq, hadmission, hnext⟩ :=
      @carryOut_of_becomes _ _ origin _ _ _ hfresh hready hskip hcreate'
    refine ⟨outcome, next, carrier, others, ?_, .created hfor hcreate hadmission, hnext⟩
    rw [applyBudget, hdecision, hlength, hbudget]
    rw [hheader] at heq ⊢
    exact heq

theorem applyBudget_of_some {node : Node} (h : node.Invariant) (frameLength : Nat)
    {origin : TrafficOrigin} {header : TelemetryHeader}
    (hfor : node.carrierFor origin = some header) :
    ∃ outcome next carrier carried, node.applyBudget frameLength origin = (outcome, next) ∧
      Budgeted node frameLength origin outcome carrier carried ∧
        node.Becomes next carrier carried := by
  have hreset := becomes_resetFor h origin
  have hready := hreset.invariant h (h.mayCarry_for origin)
  rw [recordsFor_eq hfor, hfor] at hreset
  have hload := load_of_becomes hreset
  obtain ⟨hskip, hcreate⟩ := node.budget.evaluate_some_ne frameLength
    ⟨node.carrierRecords.length, header.isOverflowed⟩
  obtain ⟨outcome, next, carrier, others, heq, hadmission, hnext⟩ :=
    @carryOut_of_becomes _ _ origin _ _ _ hreset hready hskip hcreate
  refine ⟨outcome, next, carrier, others, ?_, .carried hfor hadmission, hnext⟩
  rw [applyBudget, decision_of_load hload, budget_of_becomes hreset]
  exact heq

/-- **The budget applied.** The carrier, its records and the outcome are those of the list. -/
theorem applyBudget_spec {node : Node} (h : node.Invariant) (frameLength : Nat)
    (origin : TrafficOrigin) :
    ∃ outcome next carrier carried, node.applyBudget frameLength origin = (outcome, next) ∧
      Budgeted node frameLength origin outcome carrier carried ∧
        node.Becomes next carrier carried := by
  cases hfor : node.carrierFor origin with
  | none => exact applyBudget_of_none h frameLength hfor
  | some header => exact applyBudget_of_some h frameLength hfor

/-- A carrier stays one that the node may carry. -/
theorem Admission.mayCarry {node : Node} {origin : TrafficOrigin} {header : TelemetryHeader}
    {carried others : List Record} {decision : BudgetDecision} {outcome : AdmissionOutcome}
    {carrier : Option TelemetryHeader}
    (h : Admission node origin header carried decision outcome carrier others)
    (hcarry : node.settings.MayCarry (some header) carried) :
    node.settings.MayCarry carrier others := by
  have hsubtype := hcarry.subtype header rfl
  cases h with
  | discarded => exact .none
  | truncated => exact .some hsubtype fun _ hmem => nomatch hmem
  | admitted slots hrecord =>
    refine .some hsubtype fun record hmem => ?_
    rcases List.mem_append.mp hmem with hmem | hmem
    · exact hcarry.layout record hmem
    · rw [List.mem_singleton.mp hmem]
      exact Environment.hasLayout_of_ownRecord hrecord
  | forwarded | marked | sampledOut | notSelected | poolExhausted =>
    exact .some hsubtype hcarry.layout

theorem Admission.outcome_ne_noCarrier {node : Node} {origin : TrafficOrigin}
    {header : TelemetryHeader} {carried others : List Record} {decision : BudgetDecision}
    {outcome : AdmissionOutcome} {carrier : Option TelemetryHeader}
    (h : Admission node origin header carried decision outcome carrier others) :
    outcome ≠ .noCarrier := by
  intro houtcome
  subst houtcome
  cases h

/-- Only a decision to discard or to truncate is carried out as one, and only the first of the two
takes the carrier away. -/
theorem Admission.keeps {node : Node} {origin : TrafficOrigin} {header : TelemetryHeader}
    {carried others : List Record} {decision : BudgetDecision} {outcome : AdmissionOutcome}
    {carrier : Option TelemetryHeader}
    (h : Admission node origin header carried decision outcome carrier others)
    (hdiscard : decision ≠ .discard) (htruncate : decision ≠ .truncate) :
    carrier ≠ none ∧ outcome ≠ .discarded ∧ ∀ dropped, outcome ≠ .truncated dropped := by
  cases h with
  | discarded => exact absurd rfl hdiscard
  | truncated => exact absurd rfl htruncate
  | forwarded | marked | sampledOut | notSelected | poolExhausted | admitted => simp

theorem Budgeted.mayCarry {node : Node} (hnode : node.Invariant) {frameLength : Nat}
    {origin : TrafficOrigin} {outcome : AdmissionOutcome} {carrier : Option TelemetryHeader}
    {carried : List Record} (h : Budgeted node frameLength origin outcome carrier carried) :
    node.settings.MayCarry carrier carried := by
  rcases h.skipped_or_admission with ⟨_, rfl, rfl, _⟩ | hadmission
  · exact .none
  · exact hadmission.mayCarry (hnode.mayCarry_contentFor origin)

theorem Invariant.applyBudget {node : Node} (h : node.Invariant) (frameLength : Nat)
    (origin : TrafficOrigin) : (node.applyBudget frameLength origin).2.Invariant := by
  obtain ⟨outcome, next, carrier, carried, heq, hbudgeted, hnext⟩ :=
    applyBudget_spec h frameLength origin
  rw [heq]
  exact hnext.invariant h (hbudgeted.mayCarry h)

/-- The carrier that a decision leaves fits the frame, the new record included. -/
theorem Admission.fits {node : Node} {frameLength : Nat} {origin : TrafficOrigin}
    {header : TelemetryHeader} {carried others : List Record} {load : CarrierLoad}
    {outcome : AdmissionOutcome} {carrier : Option TelemetryHeader}
    (h : Admission node origin header carried (node.budget.evaluate frameLength (some load)) outcome
      carrier others)
    (hlimit : node.settings.frameBudget < maxLength) (hload : load.records = carried.length)
    (hcarrier : carrier ≠ none) :
    frameLength + node.budget.telemetryCost others.length ≤ node.settings.frameBudget := by
  have hmono : node.budget.telemetryCost carried.length
      ≤ node.budget.telemetryCost (carried.length + 1) := by
    unfold Budget.telemetryCost
    rw [Nat.add_one_mul]
    omega
  generalize hdecision : node.budget.evaluate frameLength (some load) = decision at h
  cases h with
  | discarded => exact absurd rfl hcarrier
  | truncated => exact Budget.le_of_truncate hlimit hdecision
  | forwarded | marked =>
    rw [← hload]
    exact Budget.le_of_hold hlimit hdecision
  | sampledOut | notSelected | poolExhausted =>
    have hle := Budget.le_of_accept hlimit hdecision
    rw [hload] at hle
    exact Nat.le_trans (Nat.add_le_add_left hmono frameLength) hle
  | admitted =>
    rw [List.length_append, ← hload]
    exact Budget.le_of_accept hlimit hdecision

theorem Budgeted.fits {node : Node} {frameLength : Nat} {origin : TrafficOrigin}
    {outcome : AdmissionOutcome} {carrier : Option TelemetryHeader} {carried : List Record}
    (h : Budgeted node frameLength origin outcome carrier carried)
    (hlimit : node.settings.frameBudget < maxLength) (hcarrier : carrier ≠ none) :
    frameLength + node.budget.telemetryCost carried.length ≤ node.settings.frameBudget :=
  (h.admission hcarrier).fits hlimit rfl hcarrier

end Node

end MeshTelemetry
