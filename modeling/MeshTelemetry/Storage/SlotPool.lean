/-!
# Slot pools

A pool has a fixed number of slots and never grows. An insertion takes the slot that has been free
the longest, and a handle names the slot, so a handle that outlives its value refers to whatever the
slot holds then.
-/

namespace MeshTelemetry

structure SlotId where
  index : Nat
  deriving DecidableEq, Repr

structure SlotPool (α : Type) where
  slots : List (Option α)
  /-- The free slots in the order of their release. -/
  free : List Nat
  deriving DecidableEq, Repr

namespace SlotPool

variable {α : Type}

def ofCapacity (capacity : Nat) : SlotPool α where
  slots := List.replicate capacity none
  free := List.range capacity

/-- Stores a value, unless every slot is taken. -/
def insert? (pool : SlotPool α) (value : α) : Option (SlotId × SlotPool α) :=
  match pool.free with
  | [] => none
  | index :: free => some (⟨index⟩, { slots := pool.slots.set index (some value), free := free })

def get? (pool : SlotPool α) (id : SlotId) : Option α := pool.slots[id.index]?.join

/-- Takes the value out of its slot and releases the slot. -/
def remove? (pool : SlotPool α) (id : SlotId) : Option (α × SlotPool α) :=
  (pool.get? id).map fun value =>
    (value, { slots := pool.slots.set id.index none, free := pool.free ++ [id.index] })

/-- Changes the value in an occupied slot; the old value comes back. -/
def replace? (pool : SlotPool α) (id : SlotId) (value : α) : Option (α × SlotPool α) :=
  (pool.get? id).map fun old => (old, { pool with slots := pool.slots.set id.index (some value) })

def capacity (pool : SlotPool α) : Nat := pool.slots.length

def available (pool : SlotPool α) : Nat := pool.free.length

def size (pool : SlotPool α) : Nat := pool.capacity - pool.available

def isEmpty (pool : SlotPool α) : Bool := pool.size = 0

end SlotPool

end MeshTelemetry
