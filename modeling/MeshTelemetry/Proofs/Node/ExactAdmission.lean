import MeshTelemetry.Proofs.Node.CounterLedger

/-!
# When a record is admitted

A budget with room for a record leaves three questions, asked in this order: is the draw for the
node, does the bitmap select it, and has the carrier pool a slot. The first that is answered with no
is the outcome, and it leaves the carrier alone. If there is none, the record joins the others and
the sequence goes up by one. Only a node with a route to the root takes a draw, and only where the
draw is asked for.
-/

namespace MeshTelemetry

theorem Environment.drawBelow_drawRange (environment : Environment) :
    environment.drawBelow drawRange
      = (environment.draws.headD 0 % drawRange,
          { environment with draws := environment.draws.tail }) := by
  obtain ⟨_, _, _, _, _, _, _, draws⟩ := environment
  unfold drawBelow
  rw [if_neg (by decide)]
  cases draws <;> rfl

theorem Environment.drawBelow_drawRange_lt (environment : Environment) :
    (environment.drawBelow drawRange).1 < 100 := by
  rw [drawBelow_drawRange]
  exact Nat.mod_lt _ (by decide)

namespace Node

/-- The node has to draw and has no route, or has drawn too much for its distance. -/
def SampledOut (node : Node) (slots : Nat) : Prop :=
  node.settings.sampling = .rootDistanceWeighted ∧
    (node.environment.reachable = true →
      100 * slots < ((node.environment.drawBelow drawRange).1 + 1)
        * max 1 node.environment.rootDistance.toNat)

instance (node : Node) (slots : Nat) : Decidable (node.SampledOut slots) :=
  inferInstanceAs (Decidable (_ ∧ _))

/-- The surroundings once it is known whether the draw is for the node. -/
def drawnEnvironment (node : Node) : Environment :=
  if node.settings.sampling = .rootDistanceWeighted ∧ node.environment.reachable = true then
    (node.environment.drawBelow drawRange).2
  else node.environment

/-- What becomes of the node's own record, given room for it in the frame. -/
def outcomeFor (node : Node) (header : TelemetryHeader) (slots : Nat) : AdmissionOutcome :=
  if node.SampledOut slots then .sampledOut
  else if header.bitmap.toNat.testBit (node.environment.nodeId.toNat % 8) = false then .notSelected
  else if node.carrierRecords.length = node.settings.carrierCapacity then .poolExhausted
  else .admitted (header.sequence + 1)

/-- Room for a record in the frame has led to this outcome: all of the record and of the count, or
nothing of either. -/
structure Accepts (node : Node) (slots : Nat) (origin : TrafficOrigin) (header : TelemetryHeader)
    (outcome : AdmissionOutcome) (next : Node) : Prop where
  outcome_eq : outcome = node.outcomeFor header slots
  settings : next.settings = node.settings
  environment : next.environment = node.drawnEnvironment
  received : next.receivedRecords = node.receivedRecords
  added : ∀ sequence, outcome = .admitted sequence →
    ∃ record, node.ownRecord? header.bitmap origin = some record ∧
      next.carrier = some { header with sequence := header.sequence + 1 } ∧
        next.carrierRecords = node.carrierRecords ++ [record]
  kept : (∀ sequence, outcome ≠ .admitted sequence) →
    next.carrier = some header ∧ next.carrierRecords = node.carrierRecords

section

variable {node : Node} {origin : TrafficOrigin} {header : TelemetryHeader}

/-- A draw that is not below the chance is one too large for the distance. -/
theorem sampledOut_iff (hsampling : node.settings.sampling = .rootDistanceWeighted)
    (hreachable : node.environment.reachable = true) (slots : Nat) :
    node.SampledOut slots ↔
      ¬ (node.environment.drawBelow drawRange).1
        < admissionPercent slots node.environment.rootDistance.toNat := by
  have hdistance : node.environment.rootDistance.toNat ≤ 0xFFFF :=
    Nat.le_of_lt_succ node.environment.rootDistance.toNat_lt
  rw [Nat.not_lt,
    admissionPercent_le_iff node.environment.drawBelow_drawRange_lt hdistance, SampledOut]
  exact ⟨fun h => h.2 hreachable, fun h => ⟨hsampling, fun _ => h⟩⟩

theorem drawsIn_of_sampledOut (node : Node) (slots : Nat) :
    node.drawsIn slots
      = (decide (¬ node.SampledOut slots),
          { node with environment := node.drawnEnvironment }) := by
  cases hsampling : node.settings.sampling with
  | deterministic =>
    have hin : ¬ node.SampledOut slots := by
      rintro ⟨hweighted, _⟩
      rw [hsampling] at hweighted
      cases hweighted
    have hsame : node.drawnEnvironment = node.environment := if_neg (by simp [hsampling])
    rw [drawsIn, hsampling, decide_eq_true hin, hsame]
  | rootDistanceWeighted =>
    cases hreachable : node.environment.reachable with
    | false =>
      have hout : node.SampledOut slots := ⟨hsampling, by simp [hreachable]⟩
      have hsame : node.drawnEnvironment = node.environment := if_neg (by simp [hreachable])
      rw [drawsIn, hsampling, decide_eq_false (not_not_intro hout), hsame]
      simp [hreachable]
    | true =>
      have hdrawn : node.drawnEnvironment = (node.environment.drawBelow drawRange).2 :=
        if_pos ⟨hsampling, hreachable⟩
      rw [drawsIn, hsampling, hdrawn]
      simp [hreachable, sampledOut_iff hsampling hreachable]

theorem ownRecord?_eq_none_iff {bitmap : UInt8} :
    node.ownRecord? bitmap origin = none ↔
      bitmap.toNat.testBit (node.environment.nodeId.toNat % 8) = false := by
  unfold ownRecord? Environment.ownRecord? bitmapSelects
  split
  · rename_i hselected
    simp [hselected]
  · rename_i hselected
    simpa using hselected

/-- The bitmap is asked before the pool, and what the pool refuses is not counted. -/
theorem outcome_of_addOwnRecord (h : node.Invariant) (hheader : node.carrier = some header) :
    (node.addOwnRecord origin).1
      = if header.bitmap.toNat.testBit (node.environment.nodeId.toNat % 8) = false then
          .notSelected
        else if node.carrierRecords.length = node.settings.carrierCapacity then .poolExhausted
        else .admitted (header.sequence + 1) := by
  unfold addOwnRecord
  rw [hheader]
  simp only [← @ownRecord?_eq_none_iff node origin]
  cases node.ownRecord? header.bitmap origin with
  | none => rfl
  | some record =>
    by_cases hfull : node.carrierRecords.length = node.settings.carrierCapacity
    · simp [h.stores.pushCarrier_full record hfull, hfull]
    · have hroom := Nat.lt_of_le_of_ne h.stores.carrier.length_le hfull
      obtain ⟨store, hpush, _⟩ := h.stores.pushCarrier record hroom
      simp [hpush, hfull]

theorem environment_addOwnRecord (node : Node) (origin : TrafficOrigin) :
    (node.addOwnRecord origin).2.environment = node.environment := by
  unfold addOwnRecord
  repeat' split
  all_goals rfl

theorem outcome_of_acceptRecord (h : node.Invariant) (hheader : node.carrier = some header)
    (slots : Nat) :
    (node.acceptRecord slots origin).1 = node.outcomeFor header slots ∧
      (node.acceptRecord slots origin).2.environment = node.drawnEnvironment := by
  have hdrawn := h.withEnvironment node.drawnEnvironment
  have hsame : node.drawnEnvironment.nodeId = node.environment.nodeId := by
    unfold drawnEnvironment
    rw [Environment.drawBelow_drawRange]
    split <;> rfl
  unfold acceptRecord outcomeFor
  rw [drawsIn_of_sampledOut]
  by_cases hsampled : node.SampledOut slots
  · simp [hsampled]
  · have houtcome := @outcome_of_addOwnRecord _ origin header hdrawn hheader
    rw [hsame] at houtcome
    simp only [decide_eq_true hsampled, if_neg hsampled]
    exact ⟨houtcome, environment_addOwnRecord _ origin⟩

/-- Room for a record is used as the outcome says, and for nothing else. -/
theorem accepts_acceptRecord (h : node.Invariant) (hheader : node.carrier = some header)
    (slots : Nat) :
    node.Accepts slots origin header (node.acceptRecord slots origin).1
      (node.acceptRecord slots origin).2 := by
  obtain ⟨houtcome, henvironment⟩ := @outcome_of_acceptRecord node origin header h hheader slots
  obtain ⟨outcome, next, carrier, carried, heq, hadmission, hbecomes⟩ :=
    @acceptRecord_spec node origin header h hheader slots
  rw [heq] at houtcome henvironment ⊢
  refine ⟨houtcome, hbecomes.settings, henvironment, hbecomes.receivedRecords_eq, ?_, ?_⟩
  · intro sequence hsequence
    obtain rfl : outcome = .admitted sequence := hsequence
    cases hadmission with
    | admitted _ hrecord => exact ⟨_, hrecord, hbecomes.carrier, hbecomes.carrierRecords_eq⟩
  · intro hother
    cases hadmission with
    | admitted => exact absurd rfl (hother _)
    | sampledOut | notSelected | poolExhausted =>
      exact ⟨hbecomes.carrier, hbecomes.carrierRecords_eq⟩

end

section

variable {node : Node}

theorem Invariant.decision (h : node.Invariant) (frameLength : Nat) :
    (node.decision frameLength).2.Invariant := by
  cases hload : node.load with
  | some load =>
    rw [decision_of_load hload]
    exact h
  | none =>
    have hnone := load_eq_none_iff.mp hload
    rcases node.budget.evaluate_none_cases frameLength with hskip | hcreate
    · rw [decision_of_skip hload hskip]
      exact h
    · obtain ⟨counters, hdecision⟩ := decision_of_create hload hcreate
      have hself := h.becomes_self
      rw [hnone, h.mayCarry.no_records hnone] at hself
      rw [hdecision]
      exact (becomes_freshHeader hself).invariant h (.some rfl fun _ hmem => nomatch hmem)

theorem resetFor_keeps (node : Node) (origin : TrafficOrigin) :
    (node.resetFor origin).settings = node.settings ∧
      (node.resetFor origin).environment = node.environment := by
  cases origin with
  | forwarder => exact ⟨rfl, rfl⟩
  | originator =>
    rw [resetFor]
    split <;> exact ⟨rfl, rfl⟩

/-- Up to the decision nothing has happened but to the carrier. -/
theorem decision_keeps (node : Node) (frameLength : Nat) (origin : TrafficOrigin) :
    ((node.resetFor origin).decision frameLength).2.settings = node.settings ∧
      ((node.resetFor origin).decision frameLength).2.environment = node.environment := by
  obtain ⟨hsettings, henvironment⟩ := node.resetFor_keeps origin
  rw [← hsettings, ← henvironment, decision]
  split <;> exact ⟨rfl, rfl⟩

/-- **Room in the frame.** The budget that decides for a record then goes by draw, bitmap and pool. -/
theorem accepts_of_decision (h : node.Invariant) {frameLength : Nat} {origin : TrafficOrigin}
    {slots : Nat} {ready : Node}
    (hdecision : (node.resetFor origin).decision frameLength = (.accept slots, ready)) :
    ∃ header outcome next, ready.carrier = some header ∧
      node.applyBudget frameLength origin = (outcome, next) ∧
        ready.Accepts slots origin header outcome next := by
  have hreset := (becomes_resetFor h origin).invariant h (h.mayCarry_for origin)
  have hready := hreset.decision frameLength
  have hcarrier : ((node.resetFor origin).decision frameLength).2.carrier ≠ none := by
    apply carrier_of_decision
    rw [hdecision]
    exact nofun
  have happly : node.applyBudget frameLength origin = ready.acceptRecord slots origin := by
    rw [applyBudget, hdecision]
    rfl
  rw [hdecision] at hready hcarrier
  obtain ⟨header, hheader⟩ := Option.ne_none_iff_exists'.mp hcarrier
  exact ⟨header, _, _, hheader, happly, accepts_acceptRecord hready hheader slots⟩

end

end Node

end MeshTelemetry
