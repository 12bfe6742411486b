import MeshTelemetry.Proofs.Node.Reachable

/-!
# A header and its records

The header of a carrier and the records that travel with it lie in different places, and some ten
operations change one of them or both. They agree in every node that a run can lead to: records
without a header are in no queue, and what is in a queue fits the settings. That a decision about the
budget is never taken twice, and that a carrier survives the call that made it, follows from this
agreement and from the arithmetic of the budget.
-/

namespace MeshTelemetry

namespace Node

/-- The carrier, the records that travel with it and those that were received agree with each other
and with the settings. -/
structure Consistent (node : Node) : Prop where
  no_records : node.carrier = none → node.carrierRecords = [] ∧ node.store.carrierLength = 0
  carrier_subtype : ∀ header, node.carrier = some header → header.subtype = node.settings.subtype
  carried_layout : ∀ record ∈ node.carrierRecords, record.hasLayout node.settings.layout = true
  received_layout : ∀ record ∈ node.receivedRecords, record.hasLayout node.settings.layout = true
  carried_length : node.carrierRecords.length ≤ node.settings.carrierCapacity
  received_length : node.receivedRecords.length ≤ node.settings.consumptionCapacity
  carried_handles : node.store.carrierLength = node.carrierRecords.length
  received_handles : node.pending = node.receivedRecords.length

theorem Invariant.consistent {node : Node} (h : node.Invariant) : node.Consistent where
  no_records hcarrier := by
    have hempty := h.mayCarry.no_records hcarrier
    have hlength := h.stores.carrierLength_eq
    rw [hempty] at hlength
    exact ⟨hempty, hlength⟩
  carrier_subtype := h.mayCarry.subtype
  carried_layout := h.mayCarry.layout
  received_layout := h.received_layout
  carried_length := h.stores.carrier.length_le
  received_length := h.stores.consumption.length_le
  carried_handles := h.stores.carrierLength_eq
  received_handles := h.stores.consumptionLength_eq

/-- Once the budget has asked for a carrier, it does not ask again. -/
theorem decision_ne_create (node : Node) (frameLength : Nat) :
    (node.decision frameLength).1 ≠ .create := by
  cases hload : node.load with
  | some load =>
    rw [decision_of_load hload]
    exact (node.budget.evaluate_some_ne frameLength load).2
  | none =>
    rcases node.budget.evaluate_none_cases frameLength with hskip | hcreate
    · rw [decision_of_skip hload hskip]
      simp
    · obtain ⟨counters, hdecision⟩ := decision_of_create hload hcreate
      rw [hdecision]
      exact (node.budget.evaluate_some_ne frameLength _).2

section

variable {node : Node} {frameLength : Nat} {origin : TrafficOrigin} {outcome : AdmissionOutcome}
  {carrier : Option TelemetryHeader} {carried : List Record}

/-- A frame that finds no carrier leaves with a fresh one or with none, and a fresh one is whole. -/
theorem Budgeted.of_carrierFor_none (h : Budgeted node frameLength origin outcome carrier carried)
    (hfor : node.carrierFor origin = none) :
    outcome ≠ .discarded ∧ (∀ dropped, outcome ≠ .truncated dropped) ∧
      (carrier = none ↔ outcome = .noCarrier) := by
  cases h with
  | skipped => simp
  | created _ hcreate hadmission =>
    obtain ⟨hdiscard, htruncate⟩ := Budget.evaluate_fresh hcreate node.freshHeader.isOverflowed
    obtain ⟨hcarrier, hdiscarded, htruncated⟩ := hadmission.keeps hdiscard htruncate
    exact ⟨hdiscarded, htruncated, iff_of_false hcarrier hadmission.outcome_ne_noCarrier⟩
  | carried hsome =>
    rw [hfor] at hsome
    cases hsome

theorem Budgeted.of_noCarrier (h : Budgeted node frameLength origin .noCarrier carrier carried) :
    carrier = none ∧ node.carrierFor origin = none ∧
      node.budget.evaluate frameLength none = .skip := by
  generalize houtcome : AdmissionOutcome.noCarrier = outcome at h
  cases h with
  | skipped hfor hskip => exact ⟨rfl, hfor, hskip⟩
  | created _ _ hadmission => exact absurd houtcome.symm hadmission.outcome_ne_noCarrier
  | carried _ hadmission => exact absurd houtcome.symm hadmission.outcome_ne_noCarrier

/-- A frame goes without telemetry if it finds no carrier and has no room for a header. -/
theorem Budgeted.noCarrier_of_long (h : Budgeted node frameLength origin outcome carrier carried)
    (hlimit : node.settings.frameBudget < maxLength) (hfor : node.carrierFor origin = none)
    (hlong : node.settings.frameBudget < frameLength + node.settings.initCost) :
    outcome = .noCarrier := by
  cases h with
  | skipped => rfl
  | created _ hcreate =>
    have hskip : node.budget.evaluate frameLength none = .skip :=
      (Budget.evaluate_none hlimit frameLength).trans (if_pos hlong)
    rw [hcreate] at hskip
    cases hskip
  | carried hsome =>
    rw [hfor] at hsome
    cases hsome

end

/-- **Header and records agree.** They do in every node that a run can lead to. So the budget never
asks for a second carrier; a call that starts without a carrier neither frees nor empties the one it
makes; and a frame goes without one exactly if there is none and a header does not fit. -/
theorem Reachable.consistent_carrier {node : Node} (h : node.Reachable) :
    node.Consistent ∧ ∀ (frameLength : Nat) (origin : TrafficOrigin),
      ∃ outcome next, node.applyBudget frameLength origin = (outcome, next) ∧
        ((node.resetFor origin).decision frameLength).1 ≠ .create ∧
        ((node.resetFor origin).carrier = none →
          outcome ≠ .discarded ∧ (∀ dropped, outcome ≠ .truncated dropped) ∧
            (next.carrier = none ↔ outcome = .noCarrier)) ∧
        (outcome = .noCarrier →
          next.carrier = none ∧ (node.resetFor origin).carrier = none ∧
            node.settings.frameBudget < frameLength + node.settings.initCost) ∧
        (node.settings.frameBudget < maxLength → (node.resetFor origin).carrier = none →
          node.settings.frameBudget < frameLength + node.settings.initCost →
            outcome = .noCarrier) := by
  have hinvariant := h.invariant
  refine ⟨hinvariant.consistent, fun frameLength origin => ?_⟩
  obtain ⟨outcome, next, carrier, carried, happly, hbudgeted, hnext⟩ :=
    applyBudget_spec hinvariant frameLength origin
  have hfor := (becomes_resetFor hinvariant origin).carrier
  refine ⟨outcome, next, happly, decision_ne_create _ _, ?_, ?_, ?_⟩
  · intro hnone
    rw [hfor] at hnone
    rw [hnext.carrier]
    exact hbudgeted.of_carrierFor_none hnone
  · rintro rfl
    obtain ⟨hcarrier, hnone, hskip⟩ := hbudgeted.of_noCarrier
    rw [hnext.carrier, hfor]
    exact ⟨hcarrier, hnone, Budget.lt_of_evaluate_none_skip hskip⟩
  · intro hlimit hnone hlong
    rw [hfor] at hnone
    exact hbudgeted.noCarrier_of_long hlimit hnone hlong

/-- A node that has taken a carrier with one record over. -/
def carryingOne : Node :=
  Node.perform { settings := {}, environment := { nodeId := 1 }, store := .ofCapacities 32 256 }
    (.receiveFrame
      (.incoming .data [] true
        [0x00, 0x3F, 0x09, 0xA8, 0x2A, 0xA0, 0x01, 0xFF, 0x0A, 0x00, 0x00, 0x01, 0xC4, 0x00, 0xF8])
      false)

theorem consistent_carrier_carryingOne :
    ∃ outcome next, carryingOne.Reachable ∧
      carryingOne.carrierRecords = [.sample ⟨10, 0, 256, -60⟩] ∧ carryingOne.Consistent ∧
        carryingOne.applyBudget 120 .originator = (outcome, next) ∧ outcome = .noCarrier ∧
          next.carrier = none := by
  have hreachable : carryingOne.Reachable :=
    .perform _ (@Reachable.start {} { nodeId := 1 } _ rfl)
  have hrecords : carryingOne.carrierRecords = [.sample ⟨10, 0, 256, -60⟩] := by decide +kernel
  have hreset : (carryingOne.resetFor .originator).carrier = none := by decide +kernel
  obtain ⟨hconsistent, hbudget⟩ := hreachable.consistent_carrier
  obtain ⟨outcome, next, happly, _, _, hgone, hlong⟩ := hbudget 120 .originator
  have houtcome : outcome = .noCarrier := by
    apply hlong
    · decide +kernel
    · exact hreset
    · decide +kernel
  exact ⟨outcome, next, hreachable, hrecords, hconsistent, happly, houtcome, (hgone houtcome).1⟩

end Node

end MeshTelemetry
