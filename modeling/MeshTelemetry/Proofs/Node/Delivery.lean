import MeshTelemetry.Node.Delivery
import MeshTelemetry.Proofs.Node.Invariant
import MeshTelemetry.Proofs.Telemetry.Content

/-!
# What the application takes

The application takes records from the top of the stack, so that a run of takes removes a prefix of
the received records, newest first. The block that a message is offered spells such a prefix, and
its length tells how many records it spells because they all have the same size.
-/

namespace MeshTelemetry

namespace Node

variable {node : Node} {carried received : List Record}

theorem nextTelemetry_nil (h : node.Stores carried []) : node.nextTelemetry = (none, node) := by
  rw [nextTelemetry, RecordStore.Holds.popConsumption_nil h]

theorem nextTelemetry_cons {record : Record} (h : node.Stores carried (record :: received)) :
    ∃ store, node.nextTelemetry
        = (some record,
            { node with
              store := store
              counters.recordsConsumed := node.counters.recordsConsumed + 1 }) ∧
      store.Holds node.settings.carrierCapacity node.settings.consumptionCapacity carried
        received := by
  obtain ⟨store, hpop, hstores⟩ := RecordStore.Holds.popConsumption_cons h
  rw [nextTelemetry, hpop]
  exact ⟨store, rfl, hstores⟩

/-- Taking up to `count` records takes the newest ones, as many as there are, and counts them. -/
theorem commitTelemetry_spec (h : node.Stores carried received) (count : Nat) :
    ∃ store, node.commitTelemetry count
        = (min count received.length,
            { node with
              store := store
              counters.recordsConsumed :=
                node.counters.recordsConsumed + min count received.length }) ∧
      store.Holds node.settings.carrierCapacity node.settings.consumptionCapacity carried
        (received.drop count) := by
  induction count generalizing node received with
  | zero => exact ⟨node.store, by rw [commitTelemetry, Nat.zero_min, Nat.add_zero], h⟩
  | succ count ih =>
    cases received with
    | nil =>
      refine ⟨node.store, ?_, h⟩
      rw [commitTelemetry, nextTelemetry_nil h]
      rfl
    | cons record received =>
      obtain ⟨store, hnext, hstores⟩ := nextTelemetry_cons h
      obtain ⟨final, hcommit, hfinal⟩ := @ih { node with
        store := store
        counters.recordsConsumed := node.counters.recordsConsumed + 1 } _ hstores
      refine ⟨final, ?_, hfinal⟩
      have hcount : node.counters.recordsConsumed + 1 + min count received.length
          = node.counters.recordsConsumed + (min count received.length + 1) := by omega
      rw [commitTelemetry, hnext]
      simp only [hcommit, hcount, List.length_cons, Nat.add_min_add_right]

/-- What the application takes is not what the node carries. -/
theorem commitTelemetry_keeps (h : node.Invariant) (count : Nat) :
    (node.commitTelemetry count).2.carrier = node.carrier ∧
      (node.commitTelemetry count).2.carrierRecords = node.carrierRecords := by
  obtain ⟨store, heq, hstores⟩ := commitTelemetry_spec h.stores count
  rw [heq]
  exact ⟨rfl, hstores.carrierRecords_eq⟩

theorem nextTelemetry_keeps (h : node.Invariant) :
    node.nextTelemetry.2.carrier = node.carrier ∧
      node.nextTelemetry.2.carrierRecords = node.carrierRecords := by
  have hone : (node.commitTelemetry 1).2 = node.nextTelemetry.2 := by
    rw [commitTelemetry]
    cases hnext : node.nextTelemetry with
    | mk record next => cases record <;> rfl
  rw [← hone]
  exact commitTelemetry_keeps h 1

theorem length_telemetryBlock (h : node.Invariant) (count : Nat) :
    (node.telemetryBlock count).length
      = min count node.receivedRecords.length * node.settings.recordSize := by
  have hlayout : ∀ record ∈ node.receivedRecords.take count,
      record.hasLayout node.settings.layout = true :=
    fun record hmem => h.received_layout record (List.mem_of_mem_take hmem)
  have hlength := length_flatMap_encode (node.receivedRecords.take count)
  rw [encodedLength_foldr hlayout, List.length_take] at hlength
  exact hlength

/-- The block is empty only if no record is in it, since records have bytes. -/
theorem telemetryBlock_eq_nil_iff (h : node.Invariant) (count : Nat) :
    node.telemetryBlock count = [] ↔ node.receivedRecords.take count = [] := by
  have hpos := h.usable.recordSize_pos
  rw [← List.length_eq_zero_iff, length_telemetryBlock h, Nat.mul_eq_zero,
    ← List.length_eq_zero_iff, List.length_take]
  omega

/-- The length of the block tells how many records are in it. -/
theorem telemetryBlock_div (h : node.Invariant) (count : Nat) :
    (node.telemetryBlock count).length / node.settings.recordSize
      = min count node.receivedRecords.length := by
  rw [length_telemetryBlock h, Nat.mul_div_cancel _ h.usable.recordSize_pos]

theorem Invariant.of_drop (h : node.Invariant) {store : RecordStore} {counters : Counters}
    {count : Nat}
    (hstores : store.Holds node.settings.carrierCapacity node.settings.consumptionCapacity
      node.carrierRecords (node.receivedRecords.drop count)) :
    Node.Invariant { node with store := store, counters := counters } :=
  .of_stores h.usable hstores h.mayCarry fun record hmem =>
    h.received_layout record (List.mem_of_mem_drop hmem)

theorem Invariant.commitTelemetry (h : node.Invariant) (count : Nat) :
    (node.commitTelemetry count).2.Invariant := by
  obtain ⟨store, heq, hstores⟩ := commitTelemetry_spec h.stores count
  rw [heq]
  exact h.of_drop hstores

theorem Invariant.nextTelemetry (h : node.Invariant) : node.nextTelemetry.2.Invariant := by
  have hstores := h.stores
  cases hreceived : node.receivedRecords with
  | nil =>
    rw [hreceived] at hstores
    rw [nextTelemetry_nil hstores]
    exact h
  | cons record received =>
    rw [hreceived] at hstores
    obtain ⟨store, heq, hnext⟩ := nextTelemetry_cons hstores
    rw [heq]
    refine .of_stores h.usable hnext h.mayCarry fun other hmem => ?_
    exact h.received_layout other (hreceived ▸ List.mem_cons_of_mem record hmem)

theorem Invariant.encodeWithPending (h : node.Invariant) (message : Message) :
    (node.encodeWithPending message).2.Invariant := by
  unfold Node.encodeWithPending
  simp only
  split
  · exact h
  · split
    · exact h
    · exact h.commitTelemetry _

theorem encodeWithPending_keeps (h : node.Invariant) (message : Message) :
    (node.encodeWithPending message).2.carrier = node.carrier ∧
      (node.encodeWithPending message).2.carrierRecords = node.carrierRecords := by
  unfold Node.encodeWithPending
  simp only
  split
  · exact ⟨rfl, rfl⟩
  · split
    · exact ⟨rfl, rfl⟩
    · exact commitTelemetry_keeps h _

end Node

end MeshTelemetry
