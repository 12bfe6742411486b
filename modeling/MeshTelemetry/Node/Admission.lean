import MeshTelemetry.Node.Basic

/-!
# Admission

Before a frame leaves, the budget decides about the carrier: whether one is made, freed, emptied or
marked, and whether the node may add its own record to it. A node that originates traffic starts
from a fresh carrier. A node that may add a record still adds none if the draw is against it, if the
bitmap does not select it, or if the carrier pool is full.
-/

namespace MeshTelemetry

/-- What became of the carrier and of the node's own record. -/
inductive AdmissionOutcome where
  | noCarrier
  | discarded
  | truncated (dropped : Nat)
  | held (overflowSet : Bool)
  | admitted (sequence : UInt8)
  | sampledOut
  | notSelected
  | poolExhausted
  deriving DecidableEq, Repr

/-- Draws are in percent. -/
def drawRange : Nat := 100

namespace Node

/-- An originator drops the carrier that it has in hand. -/
def resetFor (node : Node) : TrafficOrigin → Node
  | .originator => if node.carrier.isSome then node.freeCarrier else node
  | .forwarder => node

def freshHeader (node : Node) : TelemetryHeader :=
  .fresh node.settings.subtype node.settings.initialControl node.settings.defaultBitmap

/-- The budget's decision, after making a carrier if it asked for one. -/
def decision (node : Node) (frameLength : Nat) : BudgetDecision × Node :=
  match node.budget.evaluate frameLength node.load with
  | .create =>
    let created :=
      { node with
        carrier := some node.freshHeader
        counters.carriersCreated := node.counters.carriersCreated + 1 }
    (created.budget.evaluate frameLength created.load, created)
  | other => (other, node)

/-- Whether the draw is for the node. A node without a route to the root takes no draw and loses. -/
def drawsIn (node : Node) (remainingSlots : Nat) : Bool × Node :=
  match node.settings.sampling with
  | .deterministic => (true, node)
  | .rootDistanceWeighted =>
    if node.environment.reachable then
      let (draw, environment) := node.environment.drawBelow drawRange
      let percent := admissionPercent remainingSlots node.environment.rootDistance.toNat
      (draw < percent, { node with environment := environment })
    else (false, node)

def addOwnRecord (node : Node) (origin : TrafficOrigin) : AdmissionOutcome × Node :=
  match node.carrier with
  | none => (.noCarrier, node)
  | some header =>
    match node.ownRecord? header.bitmap origin with
    | none =>
      (.notSelected,
        { node with counters.recordsNotSelected := node.counters.recordsNotSelected + 1 })
    | some record =>
      match node.store.pushCarrier record with
      | .error _ =>
        (.poolExhausted,
          { node with counters.poolExhaustions := node.counters.poolExhaustions + 1 })
      | .ok store =>
        let sequence := header.sequence + 1
        (.admitted sequence,
          { node with
            store := store
            carrier := some { header with sequence := sequence }
            counters.recordsAdmitted := node.counters.recordsAdmitted + 1 })

def acceptRecord (node : Node) (remainingSlots : Nat) (origin : TrafficOrigin) :
    AdmissionOutcome × Node :=
  match node.drawsIn remainingSlots with
  | (true, drawn) => drawn.addOwnRecord origin
  | (false, drawn) =>
    (.sampledOut,
      { drawn with counters.recordsSampledOut := drawn.counters.recordsSampledOut + 1 })

/-- Drops the carried records and keeps the header, marked. -/
def truncateCarrier (node : Node) : AdmissionOutcome × Node :=
  let (dropped, store) := node.store.clearCarrier
  let truncated :=
    { node with
      store := store
      counters.recordsDropped := node.counters.recordsDropped + dropped }
  (.truncated dropped, truncated.setOverflow)

def discardCarrier (node : Node) : AdmissionOutcome × Node :=
  let freed := node.freeCarrier
  (.discarded,
    { freed with counters.carriersDiscarded := freed.counters.carriersDiscarded + 1 })

def carryOut (node : Node) (origin : TrafficOrigin) : BudgetDecision → AdmissionOutcome × Node
  | .skip | .create => (.noCarrier, node)
  | .discard => node.discardCarrier
  | .truncate => node.truncateCarrier
  | .hold overflow => (.held overflow, if overflow then node.setOverflow else node)
  | .accept remainingSlots => node.acceptRecord remainingSlots origin

def applyBudget (node : Node) (frameLength : Nat) (origin : TrafficOrigin) :
    AdmissionOutcome × Node :=
  let (decision, ready) := (node.resetFor origin).decision frameLength
  ready.carryOut origin decision

end Node

end MeshTelemetry
