import MeshTelemetry.Proofs.Storage.RecordStore

/-!
# A bounded queue and a bounded stack

The store does what two bounded lists would do that know nothing of slots or of each other: a queue
for the carried records and a stack for the received ones. The same calls get the same answers from
both, however many there are, and afterwards the store shows the records of the lists. The step is
one call; the invariant that carries the run is that the store holds exactly these records.
-/

namespace MeshTelemetry

/-- A call to the queue of carried records. -/
inductive QueueCall where
  | push (record : Record)
  | drain
  | clear

/-- A call to the stack of received records. -/
inductive StackCall where
  | push (record : Record)
  | pop

inductive StoreCall where
  | carrier (call : QueueCall)
  | consumption (call : StackCall)

inductive StoreAnswer where
  | pushed
  | refused (error : TelemetryError)
  | drained (records : List Record)
  | cleared (count : Nat)
  | popped (record : Option Record)

namespace RecordStore

/-- A push that fails leaves the store as it is. -/
def afterPush (store : RecordStore) :
    Except TelemetryError RecordStore → StoreAnswer × RecordStore
  | .ok next => (.pushed, next)
  | .error error => (.refused error, store)

def perform (store : RecordStore) : StoreCall → StoreAnswer × RecordStore
  | .carrier (.push record) => store.afterPush (store.pushCarrier record)
  | .carrier .drain =>
    let (records, next) := store.drainCarrier
    (.drained records, next)
  | .carrier .clear =>
    let (count, next) := store.clearCarrier
    (.cleared count, next)
  | .consumption (.push record) => store.afterPush (store.pushConsumption record)
  | .consumption .pop =>
    let (record, next) := store.popConsumption
    (.popped record, next)

def run (store : RecordStore) : List StoreCall → List StoreAnswer × RecordStore
  | [] => ([], store)
  | call :: calls =>
    let (answer, next) := store.perform call
    let (answers, final) := next.run calls
    (answer :: answers, final)

end RecordStore

structure BoundedRecords (capacity : Nat) where
  records : List Record
  length_le : records.length ≤ capacity

namespace BoundedRecords

variable {capacity : Nat}

def empty (capacity : Nat) : BoundedRecords capacity := ⟨[], capacity.zero_le⟩

/-- One record more, unless the capacity is used up; `grown` has it where it belongs. -/
def offer (bounded : BoundedRecords capacity) (pool : PoolName) (grown : List Record)
    (hgrown : grown.length = bounded.records.length + 1) :
    StoreAnswer × BoundedRecords capacity :=
  if hfull : bounded.records.length = capacity then
    (.refused (.poolExhausted pool capacity), bounded)
  else
    have hlength : grown.length ≤ capacity := by
      have hle := bounded.length_le
      omega
    (.pushed, ⟨grown, hlength⟩)

/-- The records as a queue, head first. -/
def performQueue (queue : BoundedRecords capacity) :
    QueueCall → StoreAnswer × BoundedRecords capacity
  | .push record => queue.offer .carrier (queue.records ++ [record]) List.length_append
  | .drain => (.drained queue.records, empty capacity)
  | .clear => (.cleared queue.records.length, empty capacity)

/-- The records as a stack, newest first. -/
def performStack (stack : BoundedRecords capacity) :
    StackCall → StoreAnswer × BoundedRecords capacity
  | .push record => stack.offer .consumption (record :: stack.records) rfl
  | .pop =>
    have hlength : stack.records.tail.length ≤ capacity := by
      have hle := stack.length_le
      rw [List.length_tail]
      omega
    (.popped stack.records.head?, ⟨stack.records.tail, hlength⟩)

end BoundedRecords

structure QueueAndStack (carrierCapacity consumptionCapacity : Nat) where
  queue : BoundedRecords carrierCapacity
  stack : BoundedRecords consumptionCapacity

namespace QueueAndStack

variable {carrierCapacity consumptionCapacity : Nat}

def empty (carrierCapacity consumptionCapacity : Nat) :
    QueueAndStack carrierCapacity consumptionCapacity where
  queue := .empty carrierCapacity
  stack := .empty consumptionCapacity

/-- A call to one of the lists, which the other does not hear of. -/
def perform (lists : QueueAndStack carrierCapacity consumptionCapacity) :
    StoreCall → StoreAnswer × QueueAndStack carrierCapacity consumptionCapacity
  | .carrier call =>
    let (answer, queue) := lists.queue.performQueue call
    (answer, { lists with queue })
  | .consumption call =>
    let (answer, stack) := lists.stack.performStack call
    (answer, { lists with stack })

def run (lists : QueueAndStack carrierCapacity consumptionCapacity) :
    List StoreCall → List StoreAnswer × QueueAndStack carrierCapacity consumptionCapacity
  | [] => ([], lists)
  | call :: calls =>
    let (answer, next) := lists.perform call
    let (answers, final) := next.run calls
    (answer :: answers, final)

end QueueAndStack

namespace RecordStore

variable {store : RecordStore} {carrierCapacity consumptionCapacity : Nat}

def Implements (store : RecordStore)
    (lists : QueueAndStack carrierCapacity consumptionCapacity) : Prop :=
  store.Holds carrierCapacity consumptionCapacity lists.queue.records lists.stack.records

variable {lists : QueueAndStack carrierCapacity consumptionCapacity}

theorem Implements.perform_carrier (h : store.Implements lists) (call : QueueCall) :
    (store.perform (.carrier call)).1 = (lists.perform (.carrier call)).1 ∧
      (store.perform (.carrier call)).2.Implements (lists.perform (.carrier call)).2 := by
  cases call with
  | push record =>
    by_cases hfull : lists.queue.records.length = carrierCapacity
    · simp only [RecordStore.perform, QueueAndStack.perform, BoundedRecords.performQueue,
        BoundedRecords.offer, dif_pos hfull, h.pushCarrier_full record hfull]
      exact ⟨rfl, h⟩
    · have hroom := Nat.lt_of_le_of_ne lists.queue.length_le hfull
      obtain ⟨next, hpush, hnext⟩ := h.pushCarrier record hroom
      simp only [RecordStore.perform, QueueAndStack.perform, BoundedRecords.performQueue,
        BoundedRecords.offer, dif_neg hfull, hpush]
      exact ⟨rfl, hnext⟩
  | drain =>
    obtain ⟨next, hdrain, hnext⟩ := h.drainCarrier
    simp only [RecordStore.perform, hdrain]
    exact ⟨rfl, hnext⟩
  | clear =>
    obtain ⟨next, hclear, hnext⟩ := h.clearCarrier
    simp only [RecordStore.perform, hclear]
    exact ⟨rfl, hnext⟩

theorem Implements.perform_consumption (h : store.Implements lists) (call : StackCall) :
    (store.perform (.consumption call)).1 = (lists.perform (.consumption call)).1 ∧
      (store.perform (.consumption call)).2.Implements
        (lists.perform (.consumption call)).2 := by
  cases call with
  | push record =>
    by_cases hfull : lists.stack.records.length = consumptionCapacity
    · simp only [RecordStore.perform, QueueAndStack.perform, BoundedRecords.performStack,
        BoundedRecords.offer, dif_pos hfull, h.pushConsumption_full record hfull]
      exact ⟨rfl, h⟩
    · have hroom := Nat.lt_of_le_of_ne lists.stack.length_le hfull
      obtain ⟨next, hpush, hnext⟩ := h.pushConsumption record hroom
      simp only [RecordStore.perform, QueueAndStack.perform, BoundedRecords.performStack,
        BoundedRecords.offer, dif_neg hfull, hpush]
      exact ⟨rfl, hnext⟩
  | pop =>
    obtain ⟨queue, ⟨received, hlength⟩⟩ := lists
    cases received with
    | nil =>
      simp only [RecordStore.perform, h.popConsumption_nil]
      exact ⟨rfl, h⟩
    | cons record received =>
      obtain ⟨next, hpop, hnext⟩ := h.popConsumption_cons
      simp only [RecordStore.perform, hpop]
      exact ⟨rfl, hnext⟩

/-- One call gets the same answer from both, and the store keeps the records of the lists. -/
theorem Implements.perform (h : store.Implements lists) (call : StoreCall) :
    (store.perform call).1 = (lists.perform call).1 ∧
      (store.perform call).2.Implements (lists.perform call).2 := by
  cases call with
  | carrier call => exact h.perform_carrier call
  | consumption call => exact h.perform_consumption call

theorem Implements.run (h : store.Implements lists) (calls : List StoreCall) :
    (store.run calls).1 = (lists.run calls).1 ∧
      (store.run calls).2.Implements (lists.run calls).2 := by
  -- The store and the lists both change from call to call, so the induction is over any two of them.
  induction calls generalizing store lists with
  | nil => exact ⟨rfl, h⟩
  | cons call calls ih =>
    obtain ⟨hanswer, hnext⟩ := h.perform call
    obtain ⟨hanswers, hfinal⟩ := ih hnext
    exact ⟨congrArg₂ List.cons hanswer hanswers, hfinal⟩

/-- What can be seen of the store is what is in these two lists. -/
structure Shows (store : RecordStore)
    (lists : QueueAndStack carrierCapacity consumptionCapacity) : Prop where
  carrierRecords : store.carrierRecords = lists.queue.records
  consumptionRecords : store.consumptionRecords = lists.stack.records
  carrierLength : store.carrierLength = lists.queue.records.length
  consumptionLength : store.consumptionLength = lists.stack.records.length
  carrierAvailable : store.carrierAvailable = carrierCapacity - lists.queue.records.length
  consumptionAvailable :
    store.consumptionAvailable = consumptionCapacity - lists.stack.records.length

theorem Implements.shows (h : store.Implements lists) : store.Shows lists where
  carrierRecords := h.carrierRecords_eq
  consumptionRecords := h.consumptionRecords_eq
  carrierLength := h.carrierLength_eq
  consumptionLength := h.consumptionLength_eq
  carrierAvailable := Nat.eq_sub_of_add_eq' h.carrier.length_add_available
  consumptionAvailable := Nat.eq_sub_of_add_eq' h.consumption.length_add_available

theorem consumption_perform_carrier (store : RecordStore) (call : QueueCall) :
    (store.perform (.carrier call)).2.consumptionPool = store.consumptionPool ∧
      (store.perform (.carrier call)).2.consumption = store.consumption := by
  cases call with
  | push record =>
    rw [perform, pushCarrier]
    cases store.carrierPool.insert? record <;> exact ⟨rfl, rfl⟩
  | drain => exact ⟨rfl, rfl⟩
  | clear => exact ⟨rfl, rfl⟩

theorem carrier_perform_consumption (store : RecordStore) (call : StackCall) :
    (store.perform (.consumption call)).2.carrierPool = store.carrierPool ∧
      (store.perform (.consumption call)).2.carrier = store.carrier := by
  cases call with
  | push record =>
    rw [perform, pushConsumption]
    cases store.consumptionPool.insert? record <;> exact ⟨rfl, rfl⟩
  | pop =>
    rw [perform, popConsumption]
    cases store.consumption with
    | nil => exact ⟨rfl, rfl⟩
    | cons id rest =>
      simp only
      cases store.consumptionPool.remove? id <;> exact ⟨rfl, rfl⟩

/-- **The store is a bounded queue and a bounded stack.** Whatever its capacities, a new store
answers every sequence of calls as the two empty lists would, and shows what is in them afterwards;
a call to the one leaves the other as it is, slot for slot. -/
theorem run_ofCapacities_eq_run_empty (carrierCapacity consumptionCapacity : Nat)
    (calls : List StoreCall) :
    ∃ answers store, ∃ lists : QueueAndStack carrierCapacity consumptionCapacity,
      (ofCapacities carrierCapacity consumptionCapacity).run calls = (answers, store) ∧
      (QueueAndStack.empty carrierCapacity consumptionCapacity).run calls = (answers, lists) ∧
      store.Shows lists ∧
      (∀ call, (store.perform (.carrier call)).2.consumptionPool = store.consumptionPool ∧
        (store.perform (.carrier call)).2.consumption = store.consumption) ∧
      ∀ call, (store.perform (.consumption call)).2.carrierPool = store.carrierPool ∧
        (store.perform (.consumption call)).2.carrier = store.carrier := by
  have hempty : (ofCapacities carrierCapacity consumptionCapacity).Implements
      (QueueAndStack.empty carrierCapacity consumptionCapacity) := Holds.ofCapacities _ _
  obtain ⟨hanswers, hfinal⟩ := hempty.run calls
  refine ⟨_, _, _, rfl, Prod.ext hanswers.symm rfl, hfinal.shows, ?_, ?_⟩
  · exact consumption_perform_carrier _
  · exact carrier_perform_consumption _

end RecordStore

end MeshTelemetry
