import MeshTelemetry.Proofs.Node.Consistency
import MeshTelemetry.Proofs.Node.ExactAdmission
import MeshTelemetry.Proofs.Telemetry.BudgetRule

/-!
# A fresh start

What an originator decides does not depend on what it has carried before. Two nodes of the same
settings in the same surroundings may have any pasts: once each has dropped what it had in hand, they
carry the same, namely nothing, and from then on every stage of the decision does the same to both.
The slots that the new record takes may be others, and so may the counters and the records that wait
for the application, but no stage looks at these.
-/

namespace MeshTelemetry

namespace Node

/-- What decides about a carrier is the same for both nodes. -/
structure Alike (left right : Node) : Prop where
  settings : right.settings = left.settings
  environment : right.environment = left.environment
  carrier : right.carrier = left.carrier
  carrierRecords : right.carrierRecords = left.carrierRecords

/-- One stage has given the same answer to both nodes and has left them alike. -/
structure AnswersAlike {α : Type} (left right : α × Node) : Prop where
  answer : right.1 = left.1
  alike : left.2.Alike right.2

section

variable {left right : Node}

/-- Nodes with any pasts are alike after the reset. -/
theorem alike_resetFor_originator (hleft : left.Invariant) (hright : right.Invariant)
    (hsettings : right.settings = left.settings)
    (henvironment : right.environment = left.environment) :
    (left.resetFor .originator).Alike (right.resetFor .originator) := by
  have hreset := becomes_resetFor hleft .originator
  have hreset' := becomes_resetFor hright .originator
  obtain ⟨_, hsame⟩ := left.resetFor_keeps .originator
  obtain ⟨_, hsame'⟩ := right.resetFor_keeps .originator
  constructor
  · rw [hreset'.settings, hreset.settings, hsettings]
  · rw [hsame', hsame, henvironment]
  · exact hreset'.carrier.trans hreset.carrier.symm
  · exact hreset'.carrierRecords_eq.trans hreset.carrierRecords_eq.symm

namespace Alike

theorem budget (h : left.Alike right) : right.budget = left.budget := by
  rw [Node.budget, Node.budget, h.settings]

theorem freshHeader (h : left.Alike right) : right.freshHeader = left.freshHeader := by
  rw [Node.freshHeader, Node.freshHeader, h.settings]

theorem load (h : left.Alike right) (hleft : left.Invariant) (hright : right.Invariant) :
    right.load = left.load := by
  rw [load_of_becomes hleft.becomes_self, load_of_becomes hright.becomes_self, h.carrier,
    h.carrierRecords]

theorem decision (h : left.Alike right) (hleft : left.Invariant) (hright : right.Invariant)
    (frameLength : Nat) :
    AnswersAlike (left.decision frameLength) (right.decision frameLength) := by
  have hload := h.load hleft hright
  have hlength : right.store.carrierLength = left.store.carrierLength := by
    have hrecords := congrArg List.length h.carrierRecords
    rwa [← hright.stores.carrierLength_eq, ← hleft.stores.carrierLength_eq] at hrecords
  cases hcarried : left.load with
  | some load =>
    rw [decision_of_load hcarried, decision_of_load (hload.trans hcarried), h.budget]
    exact ⟨rfl, h⟩
  | none =>
    rcases left.budget.evaluate_none_cases frameLength with hskip | hcreate
    · have hskip' : right.budget.evaluate frameLength none = .skip := by rw [h.budget, hskip]
      rw [decision_of_skip hcarried hskip, decision_of_skip (hload.trans hcarried) hskip']
      exact ⟨rfl, h⟩
    · have hcreate' : right.budget.evaluate frameLength none = .create := by rw [h.budget, hcreate]
      obtain ⟨_, hmade⟩ := decision_of_create hcarried hcreate
      obtain ⟨_, hmade'⟩ := decision_of_create (hload.trans hcarried) hcreate'
      rw [hmade, hmade', h.budget, h.freshHeader, hlength]
      exact ⟨rfl, h.settings, h.environment, rfl, h.carrierRecords⟩

theorem setOverflow (h : left.Alike right) : left.setOverflow.Alike right.setOverflow := by
  unfold Node.setOverflow
  rw [h.carrier]
  cases left.carrier with
  | none => exact h
  | some header => exact ⟨h.settings, h.environment, rfl, h.carrierRecords⟩

theorem discardCarrier (h : left.Alike right) (hleft : left.Invariant) (hright : right.Invariant) :
    AnswersAlike left.discardCarrier right.discardCarrier := by
  have hrecords : right.freeCarrier.carrierRecords = left.freeCarrier.carrierRecords :=
    hright.becomes_freeCarrier.carrierRecords_eq.trans
      hleft.becomes_freeCarrier.carrierRecords_eq.symm
  exact ⟨rfl, h.settings, h.environment, rfl, hrecords⟩

theorem truncateCarrier (h : left.Alike right) (hleft : left.Invariant)
    (hright : right.Invariant) : AnswersAlike left.truncateCarrier right.truncateCarrier := by
  obtain ⟨store, hclear, hstores⟩ := hleft.stores.clearCarrier
  obtain ⟨store', hclear', hstores'⟩ := hright.stores.clearCarrier
  unfold Node.truncateCarrier
  rw [hclear, hclear', h.carrierRecords]
  refine ⟨rfl, Alike.setOverflow ⟨h.settings, h.environment, h.carrier, ?_⟩⟩
  exact hstores'.carrierRecords_eq.trans hstores.carrierRecords_eq.symm

theorem drawnEnvironment (h : left.Alike right) :
    right.drawnEnvironment = left.drawnEnvironment := by
  rw [Node.drawnEnvironment, Node.drawnEnvironment, h.settings, h.environment]

theorem outcomeFor (h : left.Alike right) (header : TelemetryHeader) (slots : Nat) :
    right.outcomeFor header slots = left.outcomeFor header slots := by
  have hsampled : right.SampledOut slots ↔ left.SampledOut slots := by
    rw [SampledOut, SampledOut, h.settings, h.environment]
  simp only [Node.outcomeFor, hsampled, h.settings, h.environment, h.carrierRecords]

/-- The draw, the bitmap and the pool answer alike, so the record is added to both or to neither. -/
theorem acceptRecord (h : left.Alike right) (hleft : left.Invariant) (hright : right.Invariant)
    {header : TelemetryHeader} (hheader : left.carrier = some header) (slots : Nat)
    (origin : TrafficOrigin) :
    AnswersAlike (left.acceptRecord slots origin) (right.acceptRecord slots origin) := by
  have haccepts := @accepts_acceptRecord left origin header hleft hheader slots
  have haccepts' := @accepts_acceptRecord right origin header hright (h.carrier.trans hheader) slots
  have hanswer : (right.acceptRecord slots origin).1 = (left.acceptRecord slots origin).1 := by
    rw [haccepts'.outcome_eq, haccepts.outcome_eq, h.outcomeFor]
  have hsettings : (right.acceptRecord slots origin).2.settings
      = (left.acceptRecord slots origin).2.settings := by
    rw [haccepts'.settings, haccepts.settings, h.settings]
  have henvironment : (right.acceptRecord slots origin).2.environment
      = (left.acceptRecord slots origin).2.environment := by
    rw [haccepts'.environment, haccepts.environment, h.drawnEnvironment]
  by_cases hadmitted : ∃ sequence, (left.acceptRecord slots origin).1 = .admitted sequence
  · obtain ⟨sequence, hsequence⟩ := hadmitted
    obtain ⟨record, hrecord, hcarrier, hrecords⟩ := haccepts.added sequence hsequence
    obtain ⟨record', hrecord', hcarrier', hrecords'⟩ :=
      haccepts'.added sequence (hanswer.trans hsequence)
    have hsame : right.ownRecord? header.bitmap origin = left.ownRecord? header.bitmap origin := by
      rw [ownRecord?, ownRecord?, h.settings, h.environment]
    obtain rfl : record' = record := by
      rw [hsame, hrecord] at hrecord'
      exact (Option.some.inj hrecord').symm
    refine ⟨hanswer, hsettings, henvironment, hcarrier'.trans hcarrier.symm, ?_⟩
    rw [hrecords', hrecords, h.carrierRecords]
  · rw [not_exists] at hadmitted
    obtain ⟨hcarrier, hrecords⟩ := haccepts.kept hadmitted
    obtain ⟨hcarrier', hrecords'⟩ := haccepts'.kept (by rwa [hanswer])
    refine ⟨hanswer, hsettings, henvironment, hcarrier'.trans hcarrier.symm, ?_⟩
    rw [hrecords', hrecords, h.carrierRecords]

theorem carryOut (h : left.Alike right) (hleft : left.Invariant) (hright : right.Invariant)
    {decision : BudgetDecision} (hcarrier : decision ≠ .skip → left.carrier ≠ none)
    (origin : TrafficOrigin) :
    AnswersAlike (left.carryOut origin decision) (right.carryOut origin decision) := by
  cases decision with
  | skip | create => exact ⟨rfl, h⟩
  | discard => exact h.discardCarrier hleft hright
  | truncate => exact h.truncateCarrier hleft hright
  | hold overflow =>
    cases overflow with
    | false => exact ⟨rfl, h⟩
    | true => exact ⟨rfl, h.setOverflow⟩
  | accept slots =>
    obtain ⟨header, hheader⟩ := Option.ne_none_iff_exists'.mp (hcarrier nofun)
    exact h.acceptRecord hleft hright hheader slots origin

end Alike

/-- Deciding and carrying out, for nodes that are alike once they have dropped what they had to. -/
theorem answersAlike_applyBudget (hleft : left.Invariant) (hright : right.Invariant)
    {origin : TrafficOrigin} (h : (left.resetFor origin).Alike (right.resetFor origin))
    (frameLength : Nat) :
    AnswersAlike (left.applyBudget frameLength origin) (right.applyBudget frameLength origin) := by
  have hleft' := (becomes_resetFor hleft origin).invariant hleft (hleft.mayCarry_for origin)
  have hright' := (becomes_resetFor hright origin).invariant hright (hright.mayCarry_for origin)
  obtain ⟨hdecision, hready⟩ := h.decision hleft' hright' frameLength
  have houtcome : AnswersAlike
      (((left.resetFor origin).decision frameLength).2.carryOut origin
        ((left.resetFor origin).decision frameLength).1)
      (((right.resetFor origin).decision frameLength).2.carryOut origin
        ((right.resetFor origin).decision frameLength).1) := by
    rw [hdecision]
    exact hready.carryOut (hleft'.decision frameLength) (hright'.decision frameLength)
      carrier_of_decision origin
  exact houtcome

end

end Node

/-- What becomes of a frame of this length where the node's record is always wanted: the record goes
with it, or a carrier marked for want of room, or nothing. -/
def Settings.originated (settings : Settings) (frameLength : Nat) (record : Record) :
    AdmissionOutcome × Option TelemetryHeader × List Record :=
  let header := TelemetryHeader.fresh settings.subtype settings.initialControl settings.defaultBitmap
  if frameLength + settings.initCost + settings.recordSize ≤ settings.frameBudget then
    (.admitted 1, some { header with sequence := 1 }, [record])
  else if frameLength + settings.initCost ≤ settings.frameBudget then
    (.held true, some header.setOverflowed, [])
  else (.noCarrier, none, [])

namespace Node

section

variable {node : Node} {frameLength : Nat} {outcome : AdmissionOutcome}
  {carrier : Option TelemetryHeader} {carried : List Record} {record : Record}

theorem Admission.originated (husable : node.settings.Usable)
    (hlimit : node.settings.frameBudget < maxLength)
    (hsampling : node.settings.sampling = .deterministic)
    (hunmarked : node.freshHeader.isOverflowed = false)
    (hrecord : node.ownRecord? node.settings.defaultBitmap .originator = some record)
    (hheader : frameLength + node.settings.initCost ≤ node.settings.frameBudget)
    (h : Admission node .originator node.freshHeader []
      (node.budget.evaluate frameLength (some ⟨0, node.freshHeader.isOverflowed⟩)) outcome carrier
      carried) :
    (outcome, carrier, carried) = node.settings.originated frameLength record := by
  have hlength : node.settings.loadedLength frameLength 0
      = frameLength + node.settings.initCost := by
    rw [Settings.loadedLength, Nat.zero_mul, Nat.add_zero]
    rfl
  by_cases hroom : frameLength + node.settings.initCost + node.settings.recordSize
      ≤ node.settings.frameBudget
  · have hroom' : node.settings.loadedLength frameLength 0 + node.settings.recordSize
        ≤ node.settings.frameBudget := by rwa [hlength]
    have hdecision : node.budget.evaluate frameLength (some ⟨0, node.freshHeader.isOverflowed⟩)
        = .accept _ :=
      Budget.evaluate_of_decides hlimit
        (.accept hunmarked hroom' ((Settings.hasSlots_iff hroom').mpr rfl))
    rw [hdecision] at h
    rw [Settings.originated, if_pos hroom]
    cases h with
    | sampledOut _ hsampled =>
      rw [hsampling] at hsampled
      cases hsampled
    | notSelected _ hnone => exact absurd (hrecord.symm.trans hnone) (Option.some_ne_none record)
    | poolExhausted _ hfull => exact absurd hfull (Nat.ne_of_lt husable.carrierCapacity_pos)
    | admitted _ hown =>
      obtain rfl := Option.some.inj (hrecord.symm.trans hown)
      rfl
  · have hdecision : node.budget.evaluate frameLength (some ⟨0, node.freshHeader.isOverflowed⟩)
        = .hold true := by
      apply Budget.evaluate_of_decides hlimit
      apply Settings.Decides.mark
      · rwa [hlength]
      · exact hunmarked
      · rw [hlength]
        exact Nat.lt_of_not_le hroom
    rw [hdecision] at h
    rw [Settings.originated, if_neg hroom, if_pos hheader]
    cases h
    rfl

theorem Budgeted.originated (husable : node.settings.Usable)
    (hlimit : node.settings.frameBudget < maxLength)
    (hsampling : node.settings.sampling = .deterministic)
    (hunmarked : node.freshHeader.isOverflowed = false)
    (hrecord : node.ownRecord? node.settings.defaultBitmap .originator = some record)
    (h : Budgeted node frameLength .originator outcome carrier carried) :
    (outcome, carrier, carried) = node.settings.originated frameLength record := by
  by_cases hheader : frameLength + node.settings.initCost ≤ node.settings.frameBudget
  · have hcreate : node.budget.evaluate frameLength none = .create :=
      Budget.evaluate_of_decides hlimit (.create hheader)
    cases h with
    | skipped _ hskip =>
      rw [hcreate] at hskip
      cases hskip
    | created _ _ hadmission =>
      exact hadmission.originated husable hlimit hsampling hunmarked hrecord hheader
    | carried hsome => cases hsome
  · have hskip : node.budget.evaluate frameLength none = .skip :=
      Budget.evaluate_of_decides hlimit (.skip (Nat.lt_of_not_le hheader))
    cases h with
    | skipped =>
      rw [Settings.originated, if_neg (by omega), if_neg hheader]
    | created _ hcreate =>
      rw [hskip] at hcreate
      cases hcreate
    | carried hsome => cases hsome

end

/-- **A fresh start.** Whatever has happened to two nodes of the same settings in the same
surroundings, as originators they decide alike about a frame of any length, and they are alike
afterwards. Where the node's record is always wanted, the length of the frame alone decides. -/
theorem applyBudget_forgets {left right : Node} (hleft : left.Reachable) (hright : right.Reachable)
    (hsettings : right.settings = left.settings)
    (henvironment : right.environment = left.environment) (frameLength : Nat) :
    AnswersAlike (left.applyBudget frameLength .originator)
        (right.applyBudget frameLength .originator) ∧
      (left.settings.frameBudget < maxLength → left.settings.sampling = .deterministic →
        left.settings.initialControl &&& 0x03 = 0 →
        left.settings.defaultBitmap.toNat.testBit (left.environment.nodeId.toNat % 8) = true →
        ∃ record, left.ownRecord? left.settings.defaultBitmap .originator = some record ∧
          ((left.applyBudget frameLength .originator).1,
              (left.applyBudget frameLength .originator).2.carrier,
              (left.applyBudget frameLength .originator).2.carrierRecords)
            = left.settings.originated frameLength record) := by
  have hnode := hleft.invariant
  refine ⟨?_, ?_⟩
  · apply answersAlike_applyBudget hnode hright.invariant
    exact alike_resetFor_originator hnode hright.invariant hsettings henvironment
  · intro hlimit hsampling hcontrol hselected
    have hunmarked : left.freshHeader.isOverflowed = false := by
      rw [TelemetryHeader.isOverflowed, Control.isOverflowed, decide_eq_false_iff_not, not_not]
      exact hcontrol
    have hsome : left.ownRecord? left.settings.defaultBitmap .originator ≠ none := by
      rw [Ne, ownRecord?_eq_none_iff, hselected]
      exact Bool.noConfusion
    obtain ⟨record, hrecord⟩ := Option.ne_none_iff_exists'.mp hsome
    obtain ⟨outcome, next, carrier, carried, heq, hbudgeted, hnext⟩ :=
      applyBudget_spec hnode frameLength .originator
    refine ⟨record, hrecord, ?_⟩
    rw [heq, hnext.carrier, hnext.carrierRecords_eq]
    exact hbudgeted.originated hnode.usable hlimit hsampling hunmarked hrecord

/-- In the longest frame with room for a record, a node that had a record in hand ends up with the
same carrier as a node that had none. Only the slot of the new record is another. -/
theorem applyBudget_forgets_carryingOne :
    ∃ fresh, Node.start {} { nodeId := 1 } = .ok fresh ∧
      AnswersAlike (fresh.applyBudget 109 .originator) (carryingOne.applyBudget 109 .originator) ∧
        (fresh.applyBudget 109 .originator).2.store.carrier = [⟨0⟩] ∧
          (carryingOne.applyBudget 109 .originator).2.store.carrier = [⟨1⟩] ∧
            ∃ record, ((fresh.applyBudget 109 .originator).1,
                (fresh.applyBudget 109 .originator).2.carrier,
                (fresh.applyBudget 109 .originator).2.carrierRecords)
              = (.admitted 1, some ⟨0x2A, ⟨0xA0⟩, 1, 0xFF⟩, [record]) := by
  let fresh : Node :=
    { settings := {}
      environment := { nodeId := 1 }
      store := .ofCapacities 32 256 }
  have hstart : Node.start {} { nodeId := 1 } = .ok fresh := rfl
  have hcarrying : carryingOne.Reachable := .perform _ (.start hstart)
  have hsettings : carryingOne.settings = fresh.settings := by decide +kernel
  have henvironment : carryingOne.environment = fresh.environment := by decide +kernel
  have hslot : (fresh.applyBudget 109 .originator).2.store.carrier = [⟨0⟩] := by decide +kernel
  have hother : (carryingOne.applyBudget 109 .originator).2.store.carrier = [⟨1⟩] := by
    decide +kernel
  obtain ⟨halike, hlength⟩ :=
    applyBudget_forgets (.start hstart) hcarrying hsettings henvironment 109
  obtain ⟨record, _, houtcome⟩ := hlength (by decide) rfl (by decide) (by decide)
  exact ⟨fresh, hstart, halike, hslot, hother, record, houtcome⟩

end Node

end MeshTelemetry
