import MeshTelemetry.Node.Basic
import MeshTelemetry.Proofs.Result
import MeshTelemetry.Proofs.Storage.RecordStore
import MeshTelemetry.Proofs.Telemetry.Budget

/-!
# What a node keeps

Six facts hold of a node at its start and through every operation. The one that takes care is that a
node without a carrier carries no records: the header and the records lie in different places, and
each operation has to free both or neither. What an operation does to the two is said in one
relation, which leaves the settings and the application's records alone.
-/

namespace MeshTelemetry

/-- A carrier and its records that a node of these settings can have: a freed carrier has left no
records, and what there is has the node's subtype and layout. -/
structure Settings.MayCarry (settings : Settings) (carrier : Option TelemetryHeader)
    (carried : List Record) : Prop where
  no_records : carrier = none → carried = []
  subtype : ∀ header ∈ carrier, header.subtype = settings.subtype
  layout : ∀ record ∈ carried, record.hasLayout settings.layout = true

namespace Settings.MayCarry

variable {settings : Settings}

theorem none : settings.MayCarry none [] where
  no_records := fun _ => rfl
  subtype := fun _ hmem => nomatch hmem
  layout := fun _ hmem => nomatch hmem

theorem some {header : TelemetryHeader} {carried : List Record}
    (hsubtype : header.subtype = settings.subtype)
    (hlayout : ∀ record ∈ carried, record.hasLayout settings.layout = true) :
    settings.MayCarry (some header) carried where
  no_records := fun hnone => nomatch hnone
  subtype := by
    rintro _ ⟨rfl⟩
    exact hsubtype
  layout := hlayout

end Settings.MayCarry

namespace Node

/-- The records that wait for the application, newest first. -/
def receivedRecords (node : Node) : List Record := node.store.consumptionRecords

/-- The store holds these records, within the capacities of the settings. -/
def Stores (node : Node) (carried received : List Record) : Prop :=
  node.store.Holds node.settings.carrierCapacity node.settings.consumptionCapacity carried received

/-- What a node keeps through every operation. -/
structure Invariant (node : Node) : Prop where
  usable : node.settings.Usable
  stores : node.Stores node.carrierRecords node.receivedRecords
  mayCarry : node.settings.MayCarry node.carrier node.carrierRecords
  received_layout : ∀ record ∈ node.receivedRecords, record.hasLayout node.settings.layout = true

/-- The carrier and its records have become these. Draws may have been taken and events counted, and
nothing else has changed. -/
structure Becomes (node next : Node) (carrier : Option TelemetryHeader) (carried : List Record) :
    Prop where
  settings : next.settings = node.settings
  environment : ∃ draws, next.environment = { node.environment with draws := draws }
  carrier : next.carrier = carrier
  stores : next.Stores carried node.receivedRecords

theorem Stores.carrierRecords_eq {node : Node} {carried received : List Record}
    (h : node.Stores carried received) : node.carrierRecords = carried :=
  RecordStore.Holds.carrierRecords_eq h

theorem Stores.receivedRecords_eq {node : Node} {carried received : List Record}
    (h : node.Stores carried received) : node.receivedRecords = received :=
  RecordStore.Holds.consumptionRecords_eq h

namespace Invariant

theorem of_stores {node : Node} {carried received : List Record} (husable : node.settings.Usable)
    (hstores : node.Stores carried received) (hcarry : node.settings.MayCarry node.carrier carried)
    (hreceived : ∀ record ∈ received, record.hasLayout node.settings.layout = true) :
    node.Invariant := by
  obtain rfl := hstores.carrierRecords_eq
  obtain rfl := hstores.receivedRecords_eq
  exact ⟨husable, hstores, hcarry, hreceived⟩

theorem start {settings : Settings} {environment : Environment} {node : Node}
    (h : Node.start settings environment = .ok node) : node.Invariant := by
  obtain ⟨_, hvalid, h⟩ := bind_eq_ok_iff.mp h
  cases h
  exact of_stores (Settings.usable_of_validate hvalid) (.ofCapacities _ _) .none
    (fun _ hmem => nomatch hmem)

variable {node : Node}

theorem withEnvironment (h : node.Invariant) (environment : Environment) :
    Node.Invariant { node with environment := environment } :=
  ⟨h.usable, h.stores, h.mayCarry, h.received_layout⟩

theorem withCounters (h : node.Invariant) (counters : Counters) :
    Node.Invariant { node with counters := counters } :=
  ⟨h.usable, h.stores, h.mayCarry, h.received_layout⟩

theorem withRecorder (h : node.Invariant) (recorder : Option Recorder) :
    Node.Invariant { node with recorder := recorder } :=
  ⟨h.usable, h.stores, h.mayCarry, h.received_layout⟩

theorem becomes_self (h : node.Invariant) : node.Becomes node node.carrier node.carrierRecords :=
  ⟨rfl, ⟨_, rfl⟩, rfl, h.stores⟩

theorem becomes_freeCarrier (h : node.Invariant) : node.Becomes node.freeCarrier none [] := by
  obtain ⟨store, hclear, hholds⟩ := h.stores.clearCarrier
  refine ⟨rfl, ⟨_, rfl⟩, rfl, ?_⟩
  rw [Stores, freeCarrier, hclear]
  exact hholds

end Invariant

namespace Becomes

variable {node next : Node} {carrier : Option TelemetryHeader} {carried : List Record}

theorem withCounters (h : node.Becomes next carrier carried) (counters : Counters) :
    node.Becomes { next with counters := counters } carrier carried :=
  ⟨h.settings, h.environment, h.carrier, h.stores⟩

theorem setOverflow {header : TelemetryHeader} (h : node.Becomes next (some header) carried) :
    node.Becomes next.setOverflow (some header.setOverflowed) carried := by
  rw [Node.setOverflow, h.carrier]
  exact ⟨h.settings, h.environment, rfl, h.stores⟩

theorem carrierRecords_eq (h : node.Becomes next carrier carried) :
    next.carrierRecords = carried := h.stores.carrierRecords_eq

theorem receivedRecords_eq (h : node.Becomes next carrier carried) :
    next.receivedRecords = node.receivedRecords := h.stores.receivedRecords_eq

/-- A node that has only drawn and counted would report the same. -/
theorem ownRecord?_eq (h : node.Becomes next carrier carried) (bitmap : UInt8)
    (origin : TrafficOrigin) : next.ownRecord? bitmap origin = node.ownRecord? bitmap origin := by
  obtain ⟨draws, hdraws⟩ := h.environment
  rw [ownRecord?, h.settings, hdraws]
  cases origin <;> rfl

theorem trans {last : Node} {others : List Record} {other : Option TelemetryHeader}
    (h : node.Becomes next carrier carried) (hlast : next.Becomes last other others) :
    node.Becomes last other others where
  settings := hlast.settings.trans h.settings
  environment := by
    obtain ⟨_, hnext⟩ := h.environment
    obtain ⟨draws, hdraws⟩ := hlast.environment
    exact ⟨draws, by rw [hdraws, hnext]⟩
  carrier := hlast.carrier
  stores := by
    rw [← h.receivedRecords_eq]
    exact hlast.stores

theorem invariant (h : node.Becomes next carrier carried) (hnode : node.Invariant)
    (hcarry : node.settings.MayCarry carrier carried) : next.Invariant := by
  refine .of_stores ?_ h.stores ?_ ?_
  · rw [h.settings]
    exact hnode.usable
  · rw [h.carrier, h.settings]
    exact hcarry
  · rw [h.settings]
    exact hnode.received_layout

end Becomes

end Node

end MeshTelemetry
