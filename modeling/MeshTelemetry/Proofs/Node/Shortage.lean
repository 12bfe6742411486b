import MeshTelemetry.Proofs.Node.Reception
import MeshTelemetry.Proofs.Node.SequenceCount

/-!
# What the overflow flag tells

Space runs out in two resources, the bytes of a frame and the slots of the carrier pool, and a record
can be lost to either. The flag of a header is set by two of the three shortages that there are: the
frame has no room for a record, or a content is taken over that has more records than there are
slots. A node that has no slot left for its own record sets no flag. Along any way of a carrier the
header is marked if it was at the start or if one of those two has been met, and not otherwise.
-/

namespace MeshTelemetry

inductive Shortage where
  /-- The frame has no room for the node's own record, or none for the carried ones, or the carrier
  takes none since some were lost before. -/
  | frame
  /-- The carrier pool has no slot for the node's own record. -/
  | slot
  /-- The carrier pool has fewer slots than a content that is taken over has records. -/
  | takeover
  deriving DecidableEq, Repr

/-- The shortage that has led to the outcome. -/
def AdmissionOutcome.shortage? : AdmissionOutcome → Option Shortage
  | .truncated _ | .held _ => some .frame
  | .poolExhausted => some .slot
  | .noCarrier | .discarded | .admitted _ | .sampledOut | .notSelected => none

/-- What a header has become where these shortages were met: it is marked if it was before, or if
one of them is told. That of a slot is not. -/
def TelemetryHeader.MarkedBy (met : List Shortage) (before after : TelemetryHeader) : Prop :=
  after.isOverflowed = true ↔
    before.isOverflowed = true ∨ ∃ shortage ∈ met, shortage ≠ .slot

namespace TelemetryHeader

variable {before between after : TelemetryHeader} {met others : List Shortage}

theorem markedBy_nil (header : TelemetryHeader) : header.MarkedBy [] header := by
  simp [MarkedBy]

theorem markedBy_slot (header : TelemetryHeader) : header.MarkedBy [.slot] header := by
  simp [MarkedBy]

theorem markedBy_of_told (hmarked : after.isOverflowed = true) {shortage : Shortage}
    (htold : shortage ≠ .slot) : before.MarkedBy [shortage] after :=
  iff_of_true hmarked (.inr ⟨shortage, List.mem_singleton_self shortage, htold⟩)

/-- What was met on the two halves of a way was met on the whole. -/
theorem MarkedBy.trans (hfirst : before.MarkedBy met between)
    (hsecond : between.MarkedBy others after) : before.MarkedBy (met ++ others) after := by
  unfold MarkedBy at *
  rw [hsecond, hfirst, or_assoc]
  simp only [List.mem_append, or_and_right, exists_or]

end TelemetryHeader

/-- Only a carrier that is marked already is held without being marked. -/
theorem Budget.overflowed_of_hold {budget : Budget} {frameLength : Nat} {load : CarrierLoad}
    (h : budget.evaluate frameLength (some load) = .hold false) : load.overflowed = true := by
  by_contra hunmarked
  unfold evaluate at h
  simp only [if_neg hunmarked] at h
  repeat' split at h
  all_goals cases h

open CarrierPlace

namespace Node

/-- A content that is taken over may meet a shortage: fewer records have found a slot than it had. -/
def receptionShortage? (node : Node) (frame : Frame) (destinedHere : Bool) : Option Shortage :=
  match node.extract frame destinedHere with
  | (.ok (some content), next, _) =>
    if node.TakesOver destinedHere ∧ next.carrierRecords.length < content.records.length then
      some .takeover
    else none
  | (.ok none, _, _) | (.error _, _, _) => none

/-- The shortage that the operation meets. -/
def shortage? (node : Node) : Operation → Option Shortage
  | .applyBudget frameLength origin => (node.applyBudget frameLength origin).1.shortage?
  | .prepareOutgoing frame origin =>
    if frame.kind.carriesTelemetry then
      (node.afterSeen.applyBudget frame.length origin).1.shortage?
    else none
  | .extract frame destinedHere => node.receptionShortage? frame destinedHere
  | .receiveFrame frame destinedHere =>
    (node.capture frame.wire).receptionShortage? frame destinedHere
  | .embed _ | .nextTelemetry | .commitTelemetry _ | .encodeWithPending _ | .setEnvironment _
  | .setRecorder _ => none

section

variable {node : Node} {frameLength : Nat} {origin : TrafficOrigin} {outcome : AdmissionOutcome}
  {header after : TelemetryHeader} {carrier : Option TelemetryHeader} {carried others : List Record}
  {load : CarrierLoad}

/-- A decision marks the header if it is about a shortage in the frame, and only then. -/
theorem Admission.markedBy
    (h : Admission node origin header carried (node.budget.evaluate frameLength (some load)) outcome
      (some after) others)
    (hload : load.overflowed = header.isOverflowed) :
    header.MarkedBy outcome.shortage?.toList after := by
  generalize hdecision : node.budget.evaluate frameLength (some load) = decision at h
  cases h with
  | truncated | marked =>
    have hmarked : header.setOverflowed.isOverflowed = true :=
      header.control.isOverflowed_setOverflowed
    exact TelemetryHeader.markedBy_of_told hmarked nofun
  | forwarded =>
    have hmarked : header.isOverflowed = true := hload ▸ Budget.overflowed_of_hold hdecision
    exact TelemetryHeader.markedBy_of_told hmarked nofun
  | poolExhausted => exact header.markedBy_slot
  | sampledOut | notSelected | admitted => exact header.markedBy_nil

theorem Budgeted.markedBy (h : Budgeted node frameLength origin outcome (some after) others) :
    (node.contentFor origin).header.MarkedBy outcome.shortage?.toList after :=
  (h.admission (Option.some_ne_none after)).markedBy rfl

/-- The node's own record is refused a slot only where the pool is full of records that an unmarked
header goes with, and where the frame would have had room for one record more. -/
theorem Admission.of_poolExhausted
    (h : Admission node origin header carried (node.budget.evaluate frameLength (some load))
      .poolExhausted carrier others)
    (hload : load = ⟨carried.length, header.isOverflowed⟩) :
    carrier = some header ∧ header.isOverflowed = false ∧
      others.length = node.settings.carrierCapacity ∧
        (node.settings.frameBudget < maxLength →
          frameLength + node.budget.telemetryCost (node.settings.carrierCapacity + 1)
            ≤ node.settings.frameBudget) := by
  generalize hdecision : node.budget.evaluate frameLength (some load) = decision at h
  cases h with
  | poolExhausted slots hfull =>
    have hunmarked : header.isOverflowed = false := by
      by_contra hmarked
      have hflag : load.overflowed = true := by
        rw [hload]
        exact Bool.eq_true_of_not_eq_false hmarked
      have hrefused := node.budget.evaluate_of_overflowed frameLength hflag
      rw [hdecision] at hrefused
      simp at hrefused
    refine ⟨rfl, hunmarked, hfull, ?_⟩
    intro hlimit
    have hroom := Budget.le_of_accept hlimit hdecision
    rw [hload] at hroom
    rwa [hfull] at hroom

theorem Budgeted.of_poolExhausted
    (h : Budgeted node frameLength origin .poolExhausted carrier others) :
    ∃ header, carrier = some header ∧ header.isOverflowed = false ∧
      others.length = node.settings.carrierCapacity ∧
        (node.settings.frameBudget < maxLength →
          frameLength + node.budget.telemetryCost (node.settings.carrierCapacity + 1)
            ≤ node.settings.frameBudget) := by
  rcases h.skipped_or_admission with ⟨houtcome, _⟩ | hadmission
  · cases houtcome
  · exact ⟨_, hadmission.of_poolExhausted rfl⟩

/-- Where something ran short, there is a carrier. -/
theorem Budgeted.exists_of_shortage (h : Budgeted node frameLength origin outcome carrier others)
    (hshort : outcome.shortage? ≠ none) : ∃ header, carrier = some header := by
  have hstays : outcome ≠ .discarded := by
    rintro rfl
    exact hshort rfl
  rcases h.skipped_or_admission with ⟨rfl, _⟩ | hadmission
  · exact absurd rfl hshort
  · exact hadmission.exists_carrier hstays

end

section

variable {node next : Node} {frameLength : Nat} {origin : TrafficOrigin} {frame left : Frame}
  {content : TelemetryContent} {destinedHere : Bool}

/-- The budget's part: of the shortages that it meets, that of a slot alone is not told. -/
theorem state_of_shortage (h : node.Invariant) {outcome : AdmissionOutcome}
    (heq : node.applyBudget frameLength origin = (outcome, next))
    (hshort : outcome.shortage? ≠ none) :
    (next.state = .overflowed ↔ outcome ≠ .poolExhausted) ∧
      (outcome = .poolExhausted →
        next.state = .active ∧
          next.carrierRecords.length = node.settings.carrierCapacity ∧
            (node.settings.frameBudget < maxLength →
              frameLength + node.budget.telemetryCost (node.settings.carrierCapacity + 1)
                ≤ node.settings.frameBudget)) := by
  obtain ⟨decided, reached, carrier, carried, happly, hbudgeted, hnext⟩ :=
    applyBudget_spec h frameLength origin
  rw [heq] at happly
  cases happly
  obtain ⟨header, rfl⟩ := hbudgeted.exists_of_shortage hshort
  by_cases hexhausted : outcome = .poolExhausted
  · subst hexhausted
    obtain ⟨_, hcarrier, hunmarked, hfull, hroom⟩ := hbudgeted.of_poolExhausted
    obtain rfl := Option.some.inj hcarrier
    have hactive := state_of_not_isOverflowed hnext.carrier hunmarked
    refine ⟨by simp [hactive], fun _ => ⟨hactive, ?_, hroom⟩⟩
    rw [hnext.carrierRecords_eq, hfull]
  · have hframe : outcome.shortage? = some .frame := by
      cases outcome with
      | truncated | held => rfl
      | poolExhausted => exact absurd rfl hexhausted
      | noCarrier | discarded | admitted | sampledOut | notSelected => exact absurd rfl hshort
    have hmarked : header.isOverflowed = true := by
      apply hbudgeted.markedBy.mpr
      rw [hframe]
      exact .inr ⟨.frame, List.mem_singleton_self _, nofun⟩
    have hstate := state_of_isOverflowed hnext.carrier hmarked
    exact ⟨iff_of_true hstate hexhausted, fun hslot => absurd hslot hexhausted⟩

/-- A takeover leaves records out exactly if there are more of them than slots. -/
theorem takeIn_length_lt_iff (h : node.Invariant) (htakes : node.TakesOver destinedHere) :
    (node.takeIn content destinedHere).carrierRecords.length < content.records.length
      ↔ node.settings.carrierCapacity < content.records.length := by
  obtain ⟨rfl, hnone⟩ := htakes
  obtain ⟨_, hrecords⟩ := takeIn_carries h content hnone
  rw [hrecords, List.length_take]
  omega

theorem receptionShortage?_of_not_takesOver (node : Node) (frame : Frame)
    (hkept : ¬ node.TakesOver destinedHere) : node.receptionShortage? frame destinedHere = none := by
  unfold receptionShortage?
  split
  · exact if_neg fun hshort => hkept hshort.1
  · rfl
  · rfl

theorem receptionShortage?_of_takesOver (h : node.Invariant)
    (htakes : node.TakesOver destinedHere)
    (heq : node.extract frame destinedHere = (.ok (some content), next, left)) :
    node.receptionShortage? frame destinedHere
      = if node.settings.carrierCapacity < content.records.length then some .takeover else none := by
  obtain ⟨_, rfl⟩ := takeIn_of_extract h heq
  have hlost := @takeIn_length_lt_iff node content destinedHere h htakes
  rw [receptionShortage?, heq]
  simp only [htakes, hlost, true_and]

/-- The takeover's part: the header goes on as it came, unless records are left out. -/
theorem markedBy_takenHeader (h : node.Invariant) (hnone : node.carrier = none)
    (heq : node.extract frame false = (.ok (some content), next, left)) :
    content.header.MarkedBy (node.receptionShortage? frame false).toList
      (node.takenHeader content) := by
  have hshort := receptionShortage?_of_takesOver h ⟨rfl, hnone⟩ heq
  by_cases hlost : node.settings.carrierCapacity < content.records.length
  · rw [hshort, if_pos hlost]
    exact TelemetryHeader.markedBy_of_told (isOverflowed_takenHeader hlost) nofun
  · rw [hshort, if_neg hlost, takenHeader_of_le (Nat.not_lt.mp hlost)]
    exact content.header.markedBy_nil

theorem state_of_takeover (h : node.Invariant) (hnone : node.carrier = none)
    (heq : node.extract frame false = (.ok (some content), next, left))
    (hlost : next.carrierRecords.length < content.records.length) : next.state = .overflowed := by
  obtain ⟨_, rfl⟩ := takeIn_of_extract h heq
  obtain ⟨hcarrier, _⟩ := takeIn_carries h content hnone
  rw [takeIn_length_lt_iff h ⟨rfl, hnone⟩] at hlost
  exact state_of_isOverflowed hcarrier (isOverflowed_takenHeader hlost)

end

section

variable {node deciding hearing : Node} {operation : Operation} {frameLength : Nat}
  {origin : TrafficOrigin} {frame : Frame}

theorem AppliesBudget.shortage?_eq
    (happlies : node.AppliesBudget operation deciding frameLength origin) :
    node.shortage? operation = (deciding.applyBudget frameLength origin).1.shortage? := by
  cases happlies with
  | atOnce => rfl
  | leaving hdata => exact if_pos hdata

theorem Extracts.shortage?_eq (hextracts : node.Extracts operation hearing frame) :
    node.shortage? operation = hearing.receptionShortage? frame false := by
  cases hextracts <;> rfl

/-- What a node does with a carrier in hand meets no shortage, unless it applies the budget. -/
theorem shortage?_eq_none (hsome : node.carrier ≠ none)
    (hother : ∀ deciding frameLength origin,
      ¬ node.AppliesBudget operation deciding frameLength origin) :
    node.shortage? operation = none := by
  cases operation with
  | applyBudget frameLength origin => exact absurd (.atOnce frameLength origin) (hother _ _ _)
  | prepareOutgoing frame origin =>
    exact if_neg fun hdata => hother _ _ _ (.leaving hdata origin)
  | extract frame destinedHere =>
    exact node.receptionShortage?_of_not_takesOver frame fun htakes => hsome htakes.2
  | receiveFrame frame destinedHere =>
    exact (node.capture frame.wire).receptionShortage?_of_not_takesOver frame
      fun htakes => hsome htakes.2
  | _ => rfl

end

end Node

/-- All shortages on a way. -/
def shortages (performed : List (Node × Node.Operation)) : List Shortage :=
  performed.filterMap fun done => done.1.shortage? done.2

theorem shortages_singleton (done : Node × Node.Operation) :
    shortages [done] = (done.1.shortage? done.2).toList := by
  cases hshort : done.1.shortage? done.2 <;> simp [shortages, hshort]

/-- One step: the header is marked afterwards if it was before, or if the step has met a shortage
that is told. -/
theorem CarrierChange.markedBy {layout : RecordLayout} {before after : TelemetryContent}
    {done : Node × Node.Operation} {channels : List Nat}
    (hchange : CarrierChange layout before done channels after) :
    before.header.MarkedBy (done.1.shortage? done.2).toList after.header := by
  cases hchange with
  | decided happlies hbudgeted =>
    rw [happlies.shortage?_eq, ← happlies.contentFor_eq]
    exact hbudgeted.markedBy
  | unchanged hsome hother =>
    rw [Node.shortage?_eq_none hsome hother]
    exact before.header.markedBy_nil
  | taken hhearing hextracts hnone heq hheader =>
    rw [hextracts.shortage?_eq, ← hheader]
    exact Node.markedBy_takenHeader hhearing hnone heq

/-- A way: the shortages of its steps come together. -/
theorem PerformedWay.markedBy {start later : CarrierPlace}
    {performed : List (Node × Node.Operation)} {before : TelemetryContent}
    (hway : PerformedWay start performed later) (hstart : start.node.Reachable)
    (hbefore : start.content? = some before) :
    ∃ after, later.content? = some after ∧
      before.header.MarkedBy (shortages performed) after.header := by
  refine (hway.leads
    (fun performed before after => before.header.MarkedBy (shortages performed) after.header)
    (fun content => content.header.markedBy_nil) ?_ ?_ hstart hbefore).2
  · intro performed others before between after hfirst hsecond
    rw [shortages, List.filterMap_append]
    exact hfirst.trans hsecond
  · intro layout before done channels after hchange
    rw [shortages_singleton]
    exact hchange.markedBy

/-- **Which shortages a header tells of.** When the budget leaves the node's record out or drops the
carried ones for lack of space, the carrier is marked afterwards, unless it was a slot that was
lacking: then the pool is full and the header is unmarked, although the frame would have taken one
record more. A content that is taken over with fewer records than it had is marked. So along any way
a header that is unmarked at the end has met no other shortage than that of a slot. -/
theorem shortage_told_unless_slot {node : Node} (hnode : node.Reachable) :
    (∀ frameLength origin outcome next, node.applyBudget frameLength origin = (outcome, next) →
      outcome.shortage? ≠ none →
        (next.state = .overflowed ↔ outcome ≠ .poolExhausted) ∧
          (outcome = .poolExhausted →
            next.state = .active ∧
              next.carrierRecords.length = node.settings.carrierCapacity ∧
                (node.settings.frameBudget < maxLength →
                  frameLength + node.budget.telemetryCost (node.settings.carrierCapacity + 1)
                    ≤ node.settings.frameBudget))) ∧
      (∀ frame content next left, node.carrier = none →
        node.extract frame false = (.ok (some content), next, left) ∨
          node.receiveFrame frame false = (some content, next, left) →
        next.carrierRecords.length < content.records.length → next.state = .overflowed) ∧
        ∀ start content, start.node = node → start.content? = some content →
          (∀ later, Relation.ReflTransGen CarrierStep start later ↔
            ∃ performed, PerformedWay start performed later) ∧
            ∀ performed later, PerformedWay start performed later →
              ∃ after, later.content? = some after ∧
                (after.header.isOverflowed = true ↔
                  content.header.isOverflowed = true ∨
                    ∃ shortage ∈ shortages performed, shortage ≠ .slot) := by
  have hinvariant := hnode.invariant
  refine ⟨?_, ?_, ?_⟩
  · intro frameLength origin outcome next heq hshort
    exact Node.state_of_shortage hinvariant heq hshort
  · rintro frame content next left hnone (hextract | hframe) hlost
    · exact Node.state_of_takeover hinvariant hnone hextract hlost
    · have hcaptured := hinvariant.capture frame.wire
      exact Node.state_of_takeover hcaptured hnone (Node.extract_of_receiveFrame hframe) hlost
  · rintro start content rfl hcontent
    refine ⟨fun later => exists_performedWay_iff.symm, ?_⟩
    intro performed later hway
    exact hway.markedBy hnode hcontent

namespace Node

/-- Node 10 has reported. -/
def oneReport : Frame :=
  .incoming .data [] true
    [0x00, 0x3F, 0x09, 0xA8, 0x2A, 0xA0, 0x01, 0xFF, 0x0A, 0x00, 0x00, 0x01, 0xC4, 0x00, 0xF8]

/-- A node that has a slot for one record and is without a carrier. -/
def freeSlot : Node where
  settings := { carrierCapacity := 1 }
  environment := { nodeId := 1 }
  store := .ofCapacities 1 256

theorem reachable_freeSlot : freeSlot.Reachable :=
  @Reachable.start { carrierCapacity := 1 } { nodeId := 1 } _ rfl

/-- The node once its slot is taken. -/
def takenSlot : Node := freeSlot.perform (.receiveFrame oneReport false)

theorem reachable_takenSlot : takenSlot.Reachable := .perform _ reachable_freeSlot

/-- Of two records the node takes one over, and marks the header. Once the slot is taken and a frame
has no room for another record either, the header leaves marked. -/
theorem shortage_told_takenSlot :
    (∃ content next left, freeSlot.receiveFrame twoReports false = (some content, next, left) ∧
      next.carrierRecords.length < content.records.length ∧ next.state = .overflowed) ∧
    ∃ header marked next grown after,
      takenSlot.carrier = some header ∧ header.isOverflowed = false ∧
        takenSlot.applyBudget 105 .forwarder = (.held true, marked) ∧ marked.state = .overflowed ∧
          marked.embed (.outgoing .data [] [1, 2, 3]) = (.ok 15, next, grown) ∧
            (sent marked grown).content? = some after ∧ after.header.isOverflowed = true := by
  obtain ⟨_, htakeover, _⟩ := shortage_told_unless_slot reachable_freeSlot
  obtain ⟨content, hcontent, htwo⟩ : ∃ content,
      (freeSlot.receiveFrame twoReports false).1 = some content ∧ content.records.length = 2 :=
    ⟨⟨⟨0x2A, ⟨0xA0⟩, 2, 0xFF⟩, [.sample ⟨10, 0, 256, -60⟩, .sample ⟨11, 0, 256, -60⟩]⟩,
      by decide +kernel, rfl⟩
  have hone : (freeSlot.receiveFrame twoReports false).2.1.carrierRecords.length = 1 := by
    decide +kernel
  have hlost : (freeSlot.receiveFrame twoReports false).2.1.carrierRecords.length
      < content.records.length := by omega
  have hreceived : freeSlot.receiveFrame twoReports false
      = (some content, (freeSlot.receiveFrame twoReports false).2) := Prod.ext hcontent rfl
  refine ⟨⟨content, _, _, hreceived, hlost, htakeover _ _ _ _ rfl (.inr hreceived) hlost⟩, ?_⟩
  have hheader : takenSlot.carrier = some ⟨0x2A, ⟨0xA0⟩, 1, 0xFF⟩ := by decide +kernel
  have houtcome : (takenSlot.applyBudget 105 .forwarder).1 = .held true := by decide +kernel
  have heq : takenSlot.applyBudget 105 .forwarder
      = (.held true, (takenSlot.applyBudget 105 .forwarder).2) := Prod.ext houtcome rfl
  obtain ⟨next, grown, hembed⟩ : ∃ next grown,
      (takenSlot.perform (.applyBudget 105 .forwarder)).embed (.outgoing .data [] [1, 2, 3])
        = (.ok 15, next, grown) :=
    ⟨_, _, Prod.ext (by decide +kernel) rfl⟩
  have hgoes : ¬ takenSlot.EndsCarrier (.applyBudget 105 .forwarder) := by
    rintro (horigin | hdiscarded)
    · cases horigin
    · rw [houtcome] at hdiscarded
      cases hdiscarded
  have hway : PerformedWay (held takenSlot) _
      (sent (takenSlot.perform (.applyBudget 105 .forwarder)) grown) :=
    Way.start.step (.kept hgoes) |>.step
      (.embedded (.outgoing .data [] [1, 2, 3] defaultHeaderRoom) hembed)
  obtain ⟨hdecided, _, hways⟩ := shortage_told_unless_slot reachable_takenSlot
  obtain ⟨_, hperformed⟩ := hways (held takenSlot) _ rfl (content?_held hheader rfl)
  obtain ⟨after, hafter, htold⟩ := hperformed _ _ hway
  have hmet : Shortage.frame ∈ shortages
      ([] ++ [(takenSlot, .applyBudget 105 .forwarder)] ++
        [(takenSlot.perform (.applyBudget 105 .forwarder),
          .embed (.outgoing .data [] [1, 2, 3]))]) := by
    decide +kernel
  exact ⟨_, _, next, grown, after, hheader, by decide, heq,
    (hdecided _ _ _ _ heq nofun).1.mpr nofun, hembed, hafter, htold.mpr (.inr ⟨_, hmet, nofun⟩)⟩

/-- **A shortage that is not told.** The node has no slot left for its own record. Its carrier still
counts as active, and the frame leaves with an unmarked header. -/
theorem slot_shortage_untold :
    ∃ next left grown after,
      takenSlot.Reachable ∧ takenSlot.applyBudget 21 .forwarder = (.poolExhausted, next) ∧
        next.state = .active ∧
          takenSlot.prepareOutgoing (.outgoing .data [] [1, 2, 3]) .forwarder = (15, left, grown) ∧
            (sent takenSlot grown).content? = some after ∧ after.header.isOverflowed = false := by
  have houtcome : (takenSlot.applyBudget 21 .forwarder).1 = .poolExhausted := by decide +kernel
  have hwritten : (takenSlot.prepareOutgoing (.outgoing .data [] [1, 2, 3]) .forwarder).1 = 15 := by
    decide +kernel
  have hsent : (sent takenSlot
        (takenSlot.prepareOutgoing (.outgoing .data [] [1, 2, 3]) .forwarder).2.2).content?
      = some ⟨⟨0x2A, ⟨0xA0⟩, 1, 0xFF⟩, [.sample ⟨10, 0, 256, -60⟩]⟩ := by decide +kernel
  exact ⟨_, _, _, _, reachable_takenSlot, Prod.ext houtcome rfl, by decide +kernel,
    Prod.ext hwritten rfl, hsent, by decide⟩

end Node

end MeshTelemetry
