import MeshTelemetry.Storage.SlotPool
import MeshTelemetry.Telemetry.Record

/-!
# The record store

A node keeps records in two pools. The carrier queue holds the records that travel on, first hop
first, and is emptied from its head. The consumption stack holds what was received for the
application, which is served the newest record first.
-/

namespace MeshTelemetry

structure RecordStore where
  carrierPool : SlotPool Record
  /-- The carried records, head first. -/
  carrier : List SlotId
  consumptionPool : SlotPool Record
  /-- The received records, newest first. -/
  consumption : List SlotId
  deriving DecidableEq, Repr

namespace RecordStore

def ofCapacities (carrierCapacity consumptionCapacity : Nat) : RecordStore where
  carrierPool := .ofCapacity carrierCapacity
  carrier := []
  consumptionPool := .ofCapacity consumptionCapacity
  consumption := []

def pushCarrier (store : RecordStore) (record : Record) : Except TelemetryError RecordStore :=
  match store.carrierPool.insert? record with
  | some (id, pool) => .ok { store with carrierPool := pool, carrier := store.carrier ++ [id] }
  | none => .error (.poolExhausted .carrier store.carrierPool.capacity)

def pushConsumption (store : RecordStore) (record : Record) : Except TelemetryError RecordStore :=
  match store.consumptionPool.insert? record with
  | some (id, pool) =>
    .ok { store with consumptionPool := pool, consumption := id :: store.consumption }
  | none => .error (.poolExhausted .consumption store.consumptionPool.capacity)

def carrierRecords (store : RecordStore) : List Record :=
  store.carrier.filterMap store.carrierPool.get?

def consumptionRecords (store : RecordStore) : List Record :=
  store.consumption.filterMap store.consumptionPool.get?

def carrierLength (store : RecordStore) : Nat := store.carrier.length

def consumptionLength (store : RecordStore) : Nat := store.consumption.length

/-- Takes the values of these slots out of the pool, one after another. -/
def releaseAll (pool : SlotPool Record) : List SlotId → List Record × SlotPool Record
  | [] => ([], pool)
  | id :: ids =>
    match pool.remove? id with
    | some (record, smaller) =>
      let (records, final) := releaseAll smaller ids
      (record :: records, final)
    | none => releaseAll pool ids

def drainCarrier (store : RecordStore) : List Record × RecordStore :=
  let (records, pool) := releaseAll store.carrierPool store.carrier
  (records, { store with carrierPool := pool, carrier := [] })

/-- Drops every carried record and says how many there were. -/
def clearCarrier (store : RecordStore) : Nat × RecordStore :=
  let (records, emptied) := store.drainCarrier
  (records.length, emptied)

/-- Takes the newest received record. -/
def popConsumption (store : RecordStore) : Option Record × RecordStore :=
  match store.consumption with
  | [] => (none, store)
  | id :: rest =>
    match store.consumptionPool.remove? id with
    | some (record, pool) =>
      (some record, { store with consumptionPool := pool, consumption := rest })
    | none => (none, { store with consumption := rest })

def carrierAvailable (store : RecordStore) : Nat := store.carrierPool.available

def consumptionAvailable (store : RecordStore) : Nat := store.consumptionPool.available

end RecordStore

end MeshTelemetry
