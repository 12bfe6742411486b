import MeshTelemetry.Proofs.Node.CounterLedger
import MeshTelemetry.Proofs.Node.Extension
import MeshTelemetry.Proofs.Telemetry.Header

/-!
# What a node makes of its carrier

Of all that can happen to a node, only a few operations end the carrier in its hand, and of the
others only an applied budget touches it. What the budget can make of it follows from the list of
admissions: a header is marked or counted on, and a marked one is forwarded, truncated or discarded.
-/

namespace MeshTelemetry

/-- The record as receivers on these channels have filled it in one after another. -/
def Record.filledIn (record : Record) (channels : List Nat) : Record :=
  channels.foldl (fun record channel => record.fillChannel channel) record

theorem Record.filledIn_filledIn (record : Record) (channels others : List Nat) :
    (record.filledIn channels).filledIn others = record.filledIn (channels ++ others) :=
  List.foldl_append.symm

theorem map_filledIn_map (records : List Record) (channels others : List Nat) :
    (records.map (·.filledIn channels)).map (·.filledIn others)
      = records.map (·.filledIn (channels ++ others)) := by
  rw [List.map_map]
  apply List.map_congr_left
  intro record _
  exact record.filledIn_filledIn channels others

/-- What is left of some records: the first of them, filled in by receivers. None has been added. -/
def RecordsRemain (before after : List Record) : Prop :=
  ∃ count channels, after = (before.take count).map fun record => record.filledIn channels

namespace RecordsRemain

theorem refl (records : List Record) : RecordsRemain records records := by
  refine ⟨records.length, [], ?_⟩
  rw [List.take_length]
  exact (List.map_id records).symm

theorem trans {before between after : List Record} (hfirst : RecordsRemain before between)
    (hsecond : RecordsRemain between after) : RecordsRemain before after := by
  obtain ⟨count, channels, rfl⟩ := hfirst
  obtain ⟨fewer, others, rfl⟩ := hsecond
  refine ⟨min fewer count, channels ++ others, ?_⟩
  rw [← List.map_take, List.take_take]
  exact map_filledIn_map _ channels others

end RecordsRemain

namespace TelemetryContent

/-- What a content can have become: of the header what `TelemetryHeader.Precedes` says, and once it
is marked no record has been added. -/
structure Precedes (before after : TelemetryContent) : Prop where
  header : before.header.Precedes after.header
  records : before.header.isOverflowed = true → RecordsRemain before.records after.records

theorem Precedes.refl (content : TelemetryContent) : content.Precedes content :=
  ⟨.refl content.header, fun _ => .refl content.records⟩

theorem Precedes.trans {before between after : TelemetryContent} (hfirst : before.Precedes between)
    (hsecond : between.Precedes after) : before.Precedes after where
  header := hfirst.header.trans hsecond.header
  records := by
    intro hmarked
    obtain ⟨hbetween, _⟩ := hfirst.header.marked hmarked
    exact (hfirst.records hmarked).trans (hsecond.records hbetween)

/-- What a content has become on a way on which it was heard on these channels: the first of its
records in their order, filled in by the receivers, and behind them those that were added. None is
added once one is lost, and none to a marked content. -/
structure Descends (channels : List Nat) (before after : TelemetryContent) : Prop where
  header : before.header.Precedes after.header
  records : ∃ kept added,
    after.records = (before.records.take kept).map (·.filledIn channels) ++ added ∧
      (kept < before.records.length → after.header.isOverflowed = true ∧ added = []) ∧
      (before.header.isOverflowed = true → added = [])

section

variable {before between after : TelemetryContent} {channels others : List Nat}
  {header later : TelemetryHeader} {carried added : List Record}

theorem descends_append (hheader : header.Precedes later)
    (hadded : header.isOverflowed = true → added = []) :
    Descends [] ⟨header, carried⟩ ⟨later, carried ++ added⟩ := by
  refine ⟨hheader, carried.length, added, ?_, ?_, hadded⟩
  · rw [List.take_length]
    exact congrArg (· ++ added) (List.map_id carried).symm
  · intro hlost
    exact absurd hlost (Nat.lt_irrefl _)

theorem descends_of_precedes (hheader : header.Precedes later) :
    Descends [] ⟨header, carried⟩ ⟨later, carried⟩ := by
  have hsame := @descends_append header later carried [] hheader fun _ => rfl
  rwa [List.append_nil] at hsame

theorem Descends.refl (content : TelemetryContent) : content.Descends [] content :=
  descends_of_precedes (.refl content.header)

/-- A marked header may go on with the first records alone, or with none. -/
theorem descends_take (hheader : before.header.Precedes later) {limit channel : Nat}
    (hlost : limit < before.records.length → later.isOverflowed = true) :
    before.Descends [channel] ⟨later, (before.fillChannels channel).records.take limit⟩ := by
  refine ⟨hheader, limit, [], ?_, fun hlt => ⟨hlost hlt, rfl⟩, fun _ => rfl⟩
  rw [List.append_nil, fillChannels, ← List.map_take]
  rfl

theorem descends_fillChannels (content : TelemetryContent) (channel : Nat) :
    content.Descends [channel] (content.fillChannels channel) := by
  have hlength : (content.fillChannels channel).records.length = content.records.length :=
    List.length_map _
  have hall := @descends_take content _ (.refl content.header) content.records.length channel
    fun hlost => absurd hlost (Nat.lt_irrefl _)
  rwa [List.take_of_length_le (Nat.le_of_eq hlength)] at hall

theorem descends_emptied (header : TelemetryHeader) (carried : List Record) :
    Descends [] ⟨header, carried⟩ ⟨header.setOverflowed, []⟩ :=
  ⟨header.precedes_setOverflowed, 0, [], rfl,
    fun _ => ⟨header.control.isOverflowed_setOverflowed, rfl⟩, fun _ => rfl⟩

theorem Descends.trans (hfirst : before.Descends channels between)
    (hsecond : between.Descends others after) : before.Descends (channels ++ others) after := by
  obtain ⟨kept, added, hbetween, hlost, hmarked⟩ := hfirst.records
  obtain ⟨fewer, newer, hafter, hlostLater, hmarkedLater⟩ := hsecond.records
  have hlength : between.records.length = (before.records.take kept).length + added.length := by
    rw [hbetween, List.length_append, List.length_map]
  refine ⟨hfirst.header.trans hsecond.header, min fewer kept,
    (added.take (fewer - (before.records.take kept).length)).map (·.filledIn others) ++ newer,
    ?_, ?_, ?_⟩
  · rw [hafter, hbetween, List.take_append, List.map_append, ← List.map_take, List.take_take,
      map_filledIn_map, List.length_map, List.append_assoc]
  · intro hfewer
    by_cases hearly : kept < before.records.length
    · -- The first part of the way has lost a record, so nothing was added on it or since.
      obtain ⟨hbetweenMarked, rfl⟩ := hlost hearly
      obtain ⟨hafterMarked, _⟩ := hsecond.header.marked hbetweenMarked
      rw [hmarkedLater hbetweenMarked, List.take_nil]
      exact ⟨hafterMarked, rfl⟩
    · rw [List.take_of_length_le (Nat.not_lt.mp hearly)] at hlength ⊢
      obtain ⟨hafterMarked, rfl⟩ := hlostLater (by omega)
      rw [Nat.sub_eq_zero_of_le (by omega)]
      exact ⟨hafterMarked, rfl⟩
  · intro hbefore
    obtain ⟨hbetweenMarked, _⟩ := hfirst.header.marked hbefore
    rw [hmarked hbefore, hmarkedLater hbetweenMarked, List.take_nil]
    rfl

theorem Descends.precedes (h : before.Descends channels after) : before.Precedes after where
  header := h.header
  records := by
    intro hmarked
    obtain ⟨kept, added, hrecords, _, hadded⟩ := h.records
    rw [hadded hmarked, List.append_nil] at hrecords
    exact ⟨kept, channels, hrecords⟩

/-- A record that has not been lost keeps its place. -/
theorem Descends.getElem?_records (h : before.Descends channels after) {index : Nat}
    {record : Record} (hrecord : before.records[index]? = some record)
    (hindex : index < after.records.length) :
    after.records[index]? = some (record.filledIn channels) := by
  obtain ⟨kept, added, hrecords, hlost, _⟩ := h.records
  obtain ⟨hlt, _⟩ := List.getElem?_eq_some_iff.mp hrecord
  have hkept : index < kept := by
    by_contra hgone
    obtain ⟨_, rfl⟩ := hlost (by omega)
    rw [hrecords, List.append_nil, List.length_map, List.length_take] at hindex
    omega
  have hlength : index < ((before.records.take kept).map (·.filledIn channels)).length := by
    rw [List.length_map, List.length_take]
    omega
  rw [hrecords, List.getElem?_append_left hlength, List.getElem?_map,
    List.getElem?_take_of_lt hkept, hrecord]
  rfl

end

end TelemetryContent

namespace Node

/-- What the budget makes of a marked carrier. -/
inductive MarkedAdmission (header : TelemetryHeader) (carried : List Record) :
    AdmissionOutcome → Option TelemetryHeader → List Record → Prop where
  | discarded : MarkedAdmission header carried .discarded none []
  | truncated :
      MarkedAdmission header carried (.truncated carried.length) (some header.setOverflowed) []
  | forwarded : MarkedAdmission header carried (.held false) (some header) carried

section

variable {node : Node} {frameLength : Nat} {origin : TrafficOrigin} {outcome : AdmissionOutcome}
  {header after : TelemetryHeader} {carrier : Option TelemetryHeader} {carried others : List Record}

theorem Admission.of_marked {count : Nat} (hmarked : header.isOverflowed = true)
    (h : Admission node origin header carried
      (node.budget.evaluate frameLength (some ⟨count, header.isOverflowed⟩)) outcome carrier others) :
    MarkedAdmission header carried outcome carrier others := by
  have hload : (CarrierLoad.mk count header.isOverflowed).overflowed = true := hmarked
  rcases node.budget.evaluate_of_overflowed frameLength hload with hdecision | hdecision | hdecision
  · rw [hdecision] at h
    cases h
    exact .discarded
  · rw [hdecision] at h
    cases h
    exact .truncated
  · rw [hdecision] at h
    cases h
    exact .forwarded

theorem Budgeted.of_marked (h : Budgeted node frameLength .forwarder outcome carrier others)
    (hheader : node.carrier = some header) (hmarked : header.isOverflowed = true) :
    MarkedAdmission header node.carrierRecords outcome carrier others := by
  cases h with
  | skipped hnone => exact absurd (hheader.symm.trans hnone) (Option.some_ne_none header)
  | created hnone => exact absurd (hheader.symm.trans hnone) (Option.some_ne_none header)
  | carried hsome hadmission =>
    obtain rfl := Option.some.inj (hheader.symm.trans hsome)
    exact hadmission.of_marked hmarked

theorem MarkedAdmission.descends
    (h : MarkedAdmission header carried outcome (some after) others) :
    TelemetryContent.Descends [] ⟨header, carried⟩ ⟨after, others⟩ := by
  cases h with
  | truncated => exact TelemetryContent.descends_emptied header carried
  | forwarded => exact .refl _

theorem Admission.descends_of_unmarked {decision : BudgetDecision}
    (h : Admission node origin header carried decision outcome (some after) others)
    (hunmarked : header.isOverflowed = false) :
    TelemetryContent.Descends [] ⟨header, carried⟩ ⟨after, others⟩ := by
  cases h with
  | truncated => exact TelemetryContent.descends_emptied header carried
  | marked => exact TelemetryContent.descends_of_precedes header.precedes_setOverflowed
  | admitted =>
    refine TelemetryContent.descends_append (TelemetryHeader.precedes_counted hunmarked _) ?_
    intro hmarked
    rw [hunmarked] at hmarked
    cases hmarked
  | forwarded | sampledOut | notSelected | poolExhausted => exact .refl _

/-- A record can have been added only if the header was not marked. -/
theorem Admission.descends {count : Nat}
    (h : Admission node origin header carried
      (node.budget.evaluate frameLength (some ⟨count, header.isOverflowed⟩)) outcome (some after)
      others) :
    TelemetryContent.Descends [] ⟨header, carried⟩ ⟨after, others⟩ := by
  cases hflag : header.isOverflowed with
  | true => exact (h.of_marked hflag).descends
  | false => exact h.descends_of_unmarked hflag

/-- The budget makes something of the carrier in hand, or of a fresh one. -/
theorem Budgeted.descends (h : Budgeted node frameLength origin outcome (some after) others) :
    (node.contentFor origin).Descends [] ⟨after, others⟩ :=
  (h.admission (Option.some_ne_none after)).descends

theorem Admission.of_admitted {decision : BudgetDecision} {sequence : UInt8}
    (h : Admission node origin header carried decision (.admitted sequence) carrier others) :
    ∃ record after, node.ownRecord? header.bitmap origin = some record ∧ carrier = some after ∧
      others = carried ++ [record] := by
  cases h with
  | admitted _ hrecord => exact ⟨_, _, hrecord, rfl, rfl⟩

theorem Budgeted.of_admitted {sequence : UInt8}
    (h : Budgeted node frameLength origin (.admitted sequence) carrier others) :
    ∃ record after, node.ownRecord? (node.contentFor origin).header.bitmap origin = some record ∧
      carrier = some after ∧ others = (node.contentFor origin).records ++ [record] := by
  rcases h.skipped_or_admission with ⟨houtcome, _⟩ | hadmission
  · cases houtcome
  · exact hadmission.of_admitted

theorem Admission.of_discarded {decision : BudgetDecision}
    (h : Admission node origin header carried decision .discarded carrier others) :
    carrier = none ∧ others = [] := by
  cases h
  exact ⟨rfl, rfl⟩

theorem Budgeted.of_discarded (h : Budgeted node frameLength origin .discarded carrier others) :
    carrier = none ∧ others = [] := by
  rcases h.skipped_or_admission with ⟨houtcome, _⟩ | hadmission
  · cases houtcome
  · exact hadmission.of_discarded

theorem Admission.exists_carrier {decision : BudgetDecision}
    (h : Admission node origin header carried decision outcome carrier others)
    (houtcome : outcome ≠ .discarded) : ∃ after, carrier = some after := by
  cases h with
  | discarded => exact absurd rfl houtcome
  | truncated | forwarded | marked | sampledOut | notSelected | poolExhausted | admitted =>
    exact ⟨_, rfl⟩

theorem Budgeted.exists_carrier
    (h : Budgeted node frameLength .forwarder outcome carrier others) (hsome : node.carrier ≠ none)
    (houtcome : outcome ≠ .discarded) : ∃ after, carrier = some after := by
  cases h with
  | skipped hnone => exact absurd hnone hsome
  | created hnone => exact absurd hnone hsome
  | carried _ hadmission => exact hadmission.exists_carrier houtcome

end

theorem state_of_isOverflowed {node : Node} {header : TelemetryHeader}
    (hheader : node.carrier = some header) (hmarked : header.isOverflowed = true) :
    node.state = .overflowed := by
  rw [state, hheader]
  exact if_pos hmarked

theorem state_of_not_isOverflowed {node : Node} {header : TelemetryHeader}
    (hheader : node.carrier = some header) (hunmarked : header.isOverflowed = false) :
    node.state = .active := by
  rw [state, hheader]
  exact if_neg (by simp [hunmarked])

/-- The operation has the second node apply the budget to a frame of this length and origin. With a
frame that leaves, that is the node once it has counted the frame. -/
inductive AppliesBudget (node : Node) : Operation → Node → Nat → TrafficOrigin → Prop where
  | atOnce (frameLength : Nat) (origin : TrafficOrigin) :
      node.AppliesBudget (.applyBudget frameLength origin) node frameLength origin
  | leaving {frame : Frame} (hdata : frame.kind.carriesTelemetry = true) (origin : TrafficOrigin) :
      node.AppliesBudget (.prepareOutgoing frame origin) node.afterSeen frame.length origin

theorem not_appliesBudget {node : Node} {operation : Operation}
    (hbudget : ∀ frameLength origin, operation ≠ .applyBudget frameLength origin)
    (hleaving : ∀ frame origin, operation = .prepareOutgoing frame origin → frame.kind ≠ .data)
    (deciding : Node) (frameLength : Nat) (origin : TrafficOrigin) :
    ¬ node.AppliesBudget operation deciding frameLength origin := by
  intro happlies
  cases happlies with
  | atOnce => exact hbudget _ _ rfl
  | leaving hdata => exact hleaving _ _ rfl (carriesTelemetry_iff.mp hdata)

/-- The operations that end the carrier in hand: an attempt to embed it, be it for a data frame that
leaves, a fresh start as an originator, and a budget that has no room for its header. -/
def EndsCarrier (node : Node) : Operation → Prop
  | .applyBudget frameLength origin =>
    origin = .originator ∨ (node.applyBudget frameLength origin).1 = .discarded
  | .embed _ => True
  | .prepareOutgoing frame _ => frame.kind = .data
  | .extract _ _ | .receiveFrame _ _ | .nextTelemetry | .commitTelemetry _ | .encodeWithPending _
  | .setEnvironment _ | .setRecorder _ => False

/-- The carrier is gone with its records. An originator may have made a new one since, as a node with
none in hand would have done. -/
def LosesCarrier (node : Node) (operation : Operation) : Prop :=
  ((node.perform operation).carrier = none ∧ (node.perform operation).carrierRecords = []) ∨
    ∃ frameLength, operation = .applyBudget frameLength .originator ∧
      node.perform operation = node.freeCarrier.perform operation

/-- A marked carrier is still in hand as it was, or the budget has truncated it. -/
inductive KeepsMarked (node : Node) (header : TelemetryHeader) : Operation → Prop where
  | unchanged {operation : Operation} :
      (node.perform operation).carrier = some header →
      (node.perform operation).carrierRecords = node.carrierRecords →
      KeepsMarked node header operation
  | truncated {frameLength dropped : Nat} :
      (node.applyBudget frameLength .forwarder).1 = .truncated dropped →
      (node.applyBudget frameLength .forwarder).2.carrier = some header.setOverflowed →
      (node.applyBudget frameLength .forwarder).2.carrierRecords = [] →
      KeepsMarked node header (.applyBudget frameLength .forwarder)

/-- An originator's budget starts from a node without a carrier. -/
theorem applyBudget_originator {node : Node} (hsome : node.carrier ≠ none) (frameLength : Nat) :
    node.applyBudget frameLength .originator
      = node.freeCarrier.applyBudget frameLength .originator := by
  have hreset : node.resetFor .originator = node.freeCarrier :=
    if_pos (Option.isSome_iff_ne_none.mpr hsome)
  have hfreed : node.freeCarrier.resetFor .originator = node.freeCarrier := rfl
  rw [applyBudget, applyBudget, hreset, hfreed]

section

variable {node : Node} (h : node.Invariant) {header : TelemetryHeader}
  (hheader : node.carrier = some header) {operation : Operation}

include h hheader

/-- What ends the carrier also drops its records. -/
theorem losesCarrier_of_ends (hends : node.EndsCarrier operation) :
    node.LosesCarrier operation := by
  cases operation with
  | applyBudget frameLength origin =>
    rcases hends with rfl | hdiscarded
    · have hsome : node.carrier ≠ none := by simp [hheader]
      exact .inr ⟨frameLength, rfl, congrArg Prod.snd (applyBudget_originator hsome frameLength)⟩
    · obtain ⟨outcome, next, carrier, carried, heq, hbudgeted, hnext⟩ :=
        applyBudget_spec h frameLength origin
      rw [heq] at hdiscarded
      obtain rfl : outcome = .discarded := hdiscarded
      obtain ⟨rfl, rfl⟩ := hbudgeted.of_discarded
      rw [LosesCarrier, perform, heq]
      exact .inl ⟨hnext.carrier, hnext.carrierRecords_eq⟩
  | embed frame =>
    -- The carrier is freed before it is known whether the frame has taken it.
    obtain ⟨_, next, _, heq, hnext, _⟩ := embed_spec h hheader frame
    rw [LosesCarrier, perform, heq]
    exact .inl ⟨hnext.carrier, hnext.carrierRecords_eq⟩
  | prepareOutgoing frame origin =>
    obtain ⟨_, _, _, _, next, _, heq, _, _, hnext⟩ := prepareOutgoing_spec h hends origin
    rw [LosesCarrier, perform, heq]
    exact .inl ⟨hnext.carrier, hnext.carrierRecords_eq⟩
  | _ => exact hends.elim

/-- What does not end the carrier is a forwarder's budget that leaves it in hand, or applies none and
does not touch it. -/
theorem perform_cases (hgoes : ¬ node.EndsCarrier operation) :
    (∃ frameLength outcome next after carried, operation = .applyBudget frameLength .forwarder ∧
        node.applyBudget frameLength .forwarder = (outcome, next) ∧
          Budgeted node frameLength .forwarder outcome (some after) carried ∧
            next.carrier = some after ∧ next.carrierRecords = carried) ∨
      ((∀ deciding frameLength origin,
          ¬ node.AppliesBudget operation deciding frameLength origin) ∧
        (node.perform operation).carrier = some header ∧
          (node.perform operation).carrierRecords = node.carrierRecords) := by
  have hsome : node.carrier ≠ none := by simp [hheader]
  cases operation with
  | applyBudget frameLength origin =>
    obtain ⟨hforwards, hstays⟩ := not_or.mp hgoes
    obtain rfl : origin = .forwarder := by
      cases origin with
      | originator => exact absurd rfl hforwards
      | forwarder => rfl
    obtain ⟨outcome, next, carrier, carried, heq, hbudgeted, hnext⟩ :=
      applyBudget_spec h frameLength .forwarder
    rw [heq] at hstays
    obtain ⟨after, rfl⟩ := hbudgeted.exists_carrier hsome hstays
    exact .inl ⟨frameLength, outcome, next, after, carried, rfl, heq, hbudgeted, hnext.carrier,
      hnext.carrierRecords_eq⟩
  | embed frame => exact absurd trivial hgoes
  | prepareOutgoing frame origin =>
    obtain ⟨counters, recorder, heq⟩ := @prepareOutgoing_other node frame hgoes origin
    rw [perform, heq]
    refine .inr ⟨not_appliesBudget nofun ?_, hheader, rfl⟩
    rintro _ _ ⟨⟩
    exact hgoes
  | extract frame destinedHere =>
    obtain ⟨hcarrier, hrecords⟩ := @extract_keeps node destinedHere h frame (.inr hsome)
    exact .inr ⟨not_appliesBudget nofun nofun, hcarrier.trans hheader, hrecords⟩
  | receiveFrame frame destinedHere =>
    obtain ⟨hcarrier, hrecords⟩ := @extract_keeps _ destinedHere (h.capture frame.wire) frame
      (.inr hsome)
    exact .inr ⟨not_appliesBudget nofun nofun, hcarrier.trans hheader, hrecords⟩
  | nextTelemetry =>
    obtain ⟨hcarrier, hrecords⟩ := nextTelemetry_keeps h
    exact .inr ⟨not_appliesBudget nofun nofun, hcarrier.trans hheader, hrecords⟩
  | commitTelemetry count =>
    obtain ⟨hcarrier, hrecords⟩ := commitTelemetry_keeps h count
    exact .inr ⟨not_appliesBudget nofun nofun, hcarrier.trans hheader, hrecords⟩
  | encodeWithPending message =>
    obtain ⟨hcarrier, hrecords⟩ := encodeWithPending_keeps h message
    exact .inr ⟨not_appliesBudget nofun nofun, hcarrier.trans hheader, hrecords⟩
  | setEnvironment environment => exact .inr ⟨not_appliesBudget nofun nofun, hheader, rfl⟩
  | setRecorder recorder => exact .inr ⟨not_appliesBudget nofun nofun, hheader, rfl⟩

/-- What does not end a marked carrier leaves it alone or truncates it. -/
theorem keepsMarked_of_not_ends (hmarked : header.isOverflowed = true)
    (hgoes : ¬ node.EndsCarrier operation) : node.KeepsMarked header operation := by
  rcases perform_cases h hheader hgoes with
    ⟨frameLength, outcome, next, after, carried, rfl, heq, hbudgeted, hcarrier, hrecords⟩
    | ⟨_, hcarrier, hrecords⟩
  · -- Nothing was discarded, which leaves two of the three things that befall a marked carrier.
    have hadmission := hbudgeted.of_marked hheader hmarked
    cases hadmission with
    | truncated => exact .truncated (by rw [heq]) (by rw [heq, hcarrier]) (by rw [heq, hrecords])
    | forwarded => exact .unchanged (by rw [perform, heq, hcarrier]) (by rw [perform, heq, hrecords])
  · exact .unchanged hcarrier hrecords

end

end Node

end MeshTelemetry
