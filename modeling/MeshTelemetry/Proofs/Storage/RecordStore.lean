import MeshTelemetry.Proofs.Storage.SlotPool
import MeshTelemetry.Storage.RecordStore

/-!
# The store as a queue and a stack

Seen from outside, a store is two lists of records within two capacities, and the handles and the
order in which slots are used again do not show. Each list is what its pool has under its handles.
Every operation acts on the lists as the queue or the stack would, and leaves the other list alone.
-/

namespace MeshTelemetry

/-- The pool has these records under these handles, in their order, and this many slots. -/
structure SlotPool.Stocks (pool : SlotPool Record) (ids : List SlotId) (capacity : Nat)
    (records : List Record) : Prop where
  tracks : pool.Tracks ids
  capacity_eq : pool.capacity = capacity
  records_eq : ids.filterMap pool.get? = records

namespace SlotPool.Stocks

variable {pool : SlotPool Record} {id : SlotId} {ids : List SlotId} {capacity : Nat}
  {record : Record} {records : List Record}

theorem ofCapacity (capacity : Nat) : (SlotPool.ofCapacity capacity).Stocks [] capacity [] where
  tracks := .ofCapacity capacity
  capacity_eq := List.length_replicate
  records_eq := rfl

theorem length_eq (h : pool.Stocks ids capacity records) : ids.length = records.length := by
  rw [← h.records_eq]
  exact h.tracks.values_length.symm

theorem length_add_available (h : pool.Stocks ids capacity records) :
    records.length + pool.available = capacity := by
  rw [← h.records_eq, ← h.capacity_eq]
  exact h.tracks.values_length_add_available

theorem length_le (h : pool.Stocks ids capacity records) : records.length ≤ capacity := by
  rw [← h.length_add_available]
  exact Nat.le_add_right _ _

theorem insert?_eq_none_iff (h : pool.Stocks ids capacity records) :
    pool.insert? record = none ↔ records.length = capacity := by
  rw [h.tracks.insert?_eq_none_iff, h.length_eq, h.capacity_eq]

/-- A new record may stand before the others or behind them. -/
theorem exists_insert (h : pool.Stocks ids capacity records) (record : Record)
    (hroom : records.length < capacity) :
    ∃ id next, pool.insert? record = some (id, next) ∧
      next.Stocks (id :: ids) capacity (record :: records) ∧
        next.Stocks (ids ++ [id]) capacity (records ++ [record]) := by
  have hsome : pool.insert? record ≠ none := mt h.insert?_eq_none_iff.mp (Nat.ne_of_lt hroom)
  obtain ⟨⟨id, next⟩, hinsert⟩ := Option.ne_none_iff_exists'.mp hsome
  have htracks := h.tracks.insert hinsert
  have hcapacity : next.capacity = capacity :=
    (SlotPool.capacity_of_insert hinsert).trans h.capacity_eq
  have hself := h.tracks.get?_self_of_insert hinsert
  have hothers : ids.filterMap next.get? = records :=
    (h.tracks.values_of_insert hinsert).trans h.records_eq
  refine ⟨id, next, hinsert, ⟨htracks, hcapacity, ?_⟩,
    ⟨htracks.perm (List.perm_append_singleton id ids), hcapacity, ?_⟩⟩
  · rw [List.filterMap_cons, hself, hothers]
  · rw [List.filterMap_append, hothers, List.filterMap_cons, hself, List.filterMap_nil]

theorem exists_remove (h : pool.Stocks (id :: ids) capacity (record :: records)) :
    ∃ next, pool.remove? id = some (record, next) ∧ next.Stocks ids capacity records := by
  obtain ⟨value, next, hget, hremove, htracks, hvalues⟩ := h.tracks.exists_remove
  have hrecords := h.records_eq
  rw [List.filterMap_cons, hget, List.cons.injEq] at hrecords
  obtain ⟨rfl, hrest⟩ := hrecords
  have hcapacity := (SlotPool.capacity_of_remove hremove).trans h.capacity_eq
  exact ⟨next, hremove, htracks, hcapacity, hvalues.trans hrest⟩

/-- Releasing all handles yields the records and leaves every slot empty. -/
theorem releaseAll (h : pool.Stocks ids capacity records) :
    ∃ next, RecordStore.releaseAll pool ids = (records, next) ∧ next.Stocks [] capacity [] := by
  induction ids generalizing pool records with
  | nil =>
    obtain rfl : [] = records := h.records_eq
    exact ⟨pool, rfl, h⟩
  | cons id ids ih =>
    cases records with
    | nil => exact absurd h.length_eq (Nat.succ_ne_zero _)
    | cons record records =>
      obtain ⟨smaller, hremove, hsmaller⟩ := h.exists_remove
      obtain ⟨final, hrelease, hfinal⟩ := ih hsmaller
      refine ⟨final, ?_, hfinal⟩
      rw [RecordStore.releaseAll, hremove]
      simp only [hrelease]

end SlotPool.Stocks

namespace RecordStore

/-- The store holds these records, within these capacities: the carried ones first in first, the
received ones last in first. -/
structure Holds (store : RecordStore) (carrierCapacity consumptionCapacity : Nat)
    (carried received : List Record) : Prop where
  carrier : store.carrierPool.Stocks store.carrier carrierCapacity carried
  consumption : store.consumptionPool.Stocks store.consumption consumptionCapacity received

namespace Holds

variable {store : RecordStore} {carrierCapacity consumptionCapacity : Nat}
  {carried received : List Record} {record : Record}

theorem ofCapacities (carrierCapacity consumptionCapacity : Nat) :
    (RecordStore.ofCapacities carrierCapacity consumptionCapacity).Holds carrierCapacity
      consumptionCapacity [] [] where
  carrier := .ofCapacity carrierCapacity
  consumption := .ofCapacity consumptionCapacity

section

variable (h : store.Holds carrierCapacity consumptionCapacity carried received)

include h

theorem carrierRecords_eq : store.carrierRecords = carried := h.carrier.records_eq

theorem consumptionRecords_eq : store.consumptionRecords = received := h.consumption.records_eq

theorem carrierLength_eq : store.carrierLength = carried.length := h.carrier.length_eq

theorem consumptionLength_eq : store.consumptionLength = received.length := h.consumption.length_eq

theorem pushCarrier (record : Record) (hroom : carried.length < carrierCapacity) :
    ∃ next, store.pushCarrier record = .ok next ∧
      next.Holds carrierCapacity consumptionCapacity (carried ++ [record]) received := by
  obtain ⟨id, pool, hinsert, _, hqueue⟩ := h.carrier.exists_insert record hroom
  refine ⟨{ store with carrierPool := pool, carrier := store.carrier ++ [id] }, ?_,
    hqueue, h.consumption⟩
  rw [RecordStore.pushCarrier, hinsert]

/-- A full queue refuses, and names itself. -/
theorem pushCarrier_full (record : Record) (hfull : carried.length = carrierCapacity) :
    store.pushCarrier record = .error (.poolExhausted .carrier carrierCapacity) := by
  rw [RecordStore.pushCarrier, h.carrier.insert?_eq_none_iff.mpr hfull, h.carrier.capacity_eq]

theorem pushConsumption (record : Record) (hroom : received.length < consumptionCapacity) :
    ∃ next, store.pushConsumption record = .ok next ∧
      next.Holds carrierCapacity consumptionCapacity carried (record :: received) := by
  obtain ⟨id, pool, hinsert, hstack, _⟩ := h.consumption.exists_insert record hroom
  refine ⟨{ store with consumptionPool := pool, consumption := id :: store.consumption }, ?_,
    h.carrier, hstack⟩
  rw [RecordStore.pushConsumption, hinsert]

/-- A full stack refuses, and names itself. -/
theorem pushConsumption_full (record : Record) (hfull : received.length = consumptionCapacity) :
    store.pushConsumption record = .error (.poolExhausted .consumption consumptionCapacity) := by
  rw [RecordStore.pushConsumption, h.consumption.insert?_eq_none_iff.mpr hfull,
    h.consumption.capacity_eq]

theorem drainCarrier :
    ∃ next, store.drainCarrier = (carried, next) ∧
      next.Holds carrierCapacity consumptionCapacity [] received := by
  obtain ⟨pool, hrelease, hempty⟩ := h.carrier.releaseAll
  refine ⟨{ store with carrierPool := pool, carrier := [] }, ?_, hempty, h.consumption⟩
  rw [RecordStore.drainCarrier, hrelease]

theorem clearCarrier :
    ∃ next, store.clearCarrier = (carried.length, next) ∧
      next.Holds carrierCapacity consumptionCapacity [] received := by
  obtain ⟨next, hdrain, hnext⟩ := h.drainCarrier
  refine ⟨next, ?_, hnext⟩
  rw [RecordStore.clearCarrier, hdrain]

end

theorem popConsumption_nil (h : store.Holds carrierCapacity consumptionCapacity carried []) :
    store.popConsumption = (none, store) := by
  have hempty : store.consumption = [] := List.eq_nil_of_length_eq_zero h.consumptionLength_eq
  rw [RecordStore.popConsumption, hempty]

theorem popConsumption_cons
    (h : store.Holds carrierCapacity consumptionCapacity carried (record :: received)) :
    ∃ next, store.popConsumption = (some record, next) ∧
      next.Holds carrierCapacity consumptionCapacity carried received := by
  have hstock := h.consumption
  cases hids : store.consumption with
  | nil =>
    have hlength := hstock.length_eq
    rw [hids] at hlength
    cases hlength
  | cons id ids =>
    rw [hids] at hstock
    obtain ⟨pool, hremove, hrest⟩ := hstock.exists_remove
    refine ⟨{ store with consumptionPool := pool, consumption := ids }, ?_, h.carrier, hrest⟩
    rw [RecordStore.popConsumption, hids]
    simp only [hremove]

end Holds

end RecordStore

end MeshTelemetry
