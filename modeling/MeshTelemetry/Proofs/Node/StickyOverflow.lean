import MeshTelemetry.Proofs.Node.CarrierWay

/-!
# Overflow is sticky

No step on the way of a carrier clears the flag, counts a marked header on or adds a record to one,
so nothing does along any way. The layout matters only to the records: a node of another layout cuts
them anew, but it reads the same header.
-/

namespace MeshTelemetry

open CarrierPlace

section

variable {start later : CarrierPlace} {content : TelemetryContent}

/-- The header along any way. -/
theorem header_precedes_of_steps (hstart : start.node.Reachable)
    (hcontent : start.content? = some content)
    (hsteps : Relation.ReflTransGen CarrierStep start later) :
    ∃ after, later.content? = some after ∧ content.header.Precedes after.header := by
  obtain ⟨performed, hway⟩ := exists_performedWay_iff.mpr hsteps
  exact (hway.leads (fun _ before after => before.header.Precedes after.header)
    (fun content => .refl content.header) (fun hfirst hsecond => hfirst.trans hsecond)
    CarrierChange.header_precedes hstart hcontent).2

/-- Header and records along a way through nodes of one layout. -/
theorem precedes_of_likeSteps (hstart : start.node.Reachable)
    (hcontent : start.content? = some content)
    (hsteps : Relation.ReflTransGen LikeStep start later) :
    ∃ after, later.content? = some after ∧ content.Precedes after := by
  obtain ⟨performed, hway⟩ := exists_way_iff.mpr hsteps
  refine (hway.leads (fun _ => TelemetryContent.Precedes) .refl .trans ?_ hstart hcontent).2
  rintro place done next before ⟨hstep, hlayout⟩ hplace hbefore
  obtain ⟨after, hafter, hchange⟩ := hstep.change hplace hbefore
  have hdescends := hchange.descends fun hheard => (hstep.layout_of_heard hheard).symm.trans hlayout
  exact ⟨hstep.reachable hplace, after, hafter, hdescends.precedes⟩

end

/-- **Overflow is sticky.** Whatever happens to a node whose carrier is marked, the carrier is gone
afterwards or still there as it was, unless the budget has truncated it. Along any way from a carrier
on, subtype, bitmap and the other control bits stay, and once it is marked it stays marked and keeps
its sequence, in a frame as in the hand of the next node. Among nodes of one layout no record is
added to it. -/
theorem overflow_sticky {place : CarrierPlace} (hplace : place.node.Reachable)
    {content : TelemetryContent} (hcontent : place.content? = some content) :
    (∀ node operation, place = held node → content.header.isOverflowed = true →
      (node.EndsCarrier operation → node.LosesCarrier operation) ∧
        (¬ node.EndsCarrier operation → node.KeepsMarked content.header operation)) ∧
      (∀ later, Relation.ReflTransGen CarrierStep place later →
        ∃ after, later.content? = some after ∧ content.header.Precedes after.header ∧
          ∀ holder, later = held holder → content.header.isOverflowed = true →
            holder.state = .overflowed) ∧
        ∀ later, Relation.ReflTransGen LikeStep place later → content.header.isOverflowed = true →
          ∃ after, later.content? = some after ∧ RecordsRemain content.records after.records := by
  refine ⟨?_, ?_, ?_⟩
  · rintro node operation rfl hmarked
    obtain ⟨header, hheader, rfl⟩ := exists_header_of_content? hcontent
    exact ⟨Node.losesCarrier_of_ends hplace.invariant hheader,
      Node.keepsMarked_of_not_ends hplace.invariant hheader hmarked⟩
  · intro later hsteps
    obtain ⟨after, hafter, hprecedes⟩ := header_precedes_of_steps hplace hcontent hsteps
    refine ⟨after, hafter, hprecedes, ?_⟩
    rintro holder rfl hmarked
    obtain ⟨header, hheader, rfl⟩ := exists_header_of_content? hafter
    exact Node.state_of_isOverflowed hheader (hprecedes.marked hmarked).1
  · intro later hsteps hmarked
    obtain ⟨after, hafter, hprecedes⟩ := precedes_of_likeSteps hplace hcontent hsteps
    exact ⟨after, hafter, hprecedes.records hmarked⟩

namespace Node

/-- A node that has taken over a carrier with one record, which has one bit of the flag set. -/
def markedOne : Node :=
  Node.perform { settings := {}, environment := { nodeId := 1 }, store := .ofCapacities 32 256 }
    (.receiveFrame
      (.incoming .data [] true
        [0x00, 0x3F, 0x09, 0xA8, 0x2A, 0xA1, 0x01, 0xFF, 0x0A, 0x00, 0x00, 0x01, 0xC4, 0x00, 0xF8])
      false)

theorem reachable_markedOne : markedOne.Reachable :=
  .perform _ (@Reachable.start {} { nodeId := 1 } _ rfl)

theorem carrier_markedOne : markedOne.carrier = some ⟨0x2A, ⟨0xA1⟩, 1, 0xFF⟩ := by decide +kernel

theorem carrierRecords_markedOne : markedOne.carrierRecords = [.sample ⟨10, 0, 256, -60⟩] := by
  decide +kernel

/-- The mark survives the way over the air into the hand of another node. -/
theorem overflow_sticky_markedOne :
    ∃ receiver written next grown, Node.start {} { nodeId := 2 } = .ok receiver ∧
      markedOne.embed (.outgoing .data [] [1, 2, 3]) = (.ok written, next, grown) ∧
        (receiver.receiveFrame grown.received false).2.1.state = .overflowed ∧
          markedOne.KeepsMarked ⟨0x2A, ⟨0xA1⟩, 1, 0xFF⟩ .nextTelemetry := by
  let receiver : Node :=
    { settings := {}
      environment := { nodeId := 2 }
      store := .ofCapacities 32 256 }
  have hstart : Node.start {} { nodeId := 2 } = .ok receiver := rfl
  have hsubtype : receiver.settings.subtype = markedOne.settings.subtype := by decide +kernel
  obtain ⟨next, grown, hembed⟩ : ∃ next grown,
      markedOne.embed (.outgoing .data [] [1, 2, 3]) = (.ok 15, next, grown) :=
    ⟨_, _, Prod.ext (by decide +kernel) rfl⟩
  have hcontent : (held markedOne).content?
      = some ⟨⟨0x2A, ⟨0xA1⟩, 1, 0xFF⟩, [.sample ⟨10, 0, 256, -60⟩]⟩ :=
    content?_held carrier_markedOne carrierRecords_markedOne
  have hmarked : TelemetryHeader.isOverflowed ⟨0x2A, ⟨0xA1⟩, 1, 0xFF⟩ = true := by decide
  have hplace : (held markedOne).node.Reachable := reachable_markedOne
  obtain ⟨hstays, htravels, _⟩ := overflow_sticky hplace hcontent
  have hsent : CarrierStep (held markedOne) (sent markedOne grown) :=
    ⟨_, .embedded (.outgoing .data [] [1, 2, 3] defaultHeaderRoom) hembed⟩
  have htaken : CarrierStep (sent markedOne grown)
      (held (receiver.perform (.receiveFrame grown.received false))) :=
    ⟨_, .taken (.start hstart) hsubtype rfl (.inr rfl)⟩
  obtain ⟨_, _, _, hstill⟩ := htravels _ (.tail (.single hsent) htaken)
  refine ⟨receiver, 15, next, grown, hstart, hembed, hstill _ rfl hmarked, ?_⟩
  exact (hstays markedOne .nextTelemetry rfl hmarked).2 not_false

/-- **A control byte that does not stay.** One bit of the flag is enough to mark a carrier, and
truncating it sets both. -/
theorem truncated_changes_control :
    ∃ header after next, markedOne.Reachable ∧ markedOne.carrier = some header ∧
      header.isOverflowed = true ∧
        markedOne.applyBudget 110 .forwarder = (.truncated 1, next) ∧ next.carrier = some after ∧
          after.control ≠ header.control := by
  have houtcome : (markedOne.applyBudget 110 .forwarder).1 = .truncated 1 := by decide +kernel
  have hafter : (markedOne.applyBudget 110 .forwarder).2.carrier
      = some ⟨0x2A, ⟨0xA3⟩, 1, 0xFF⟩ := by decide +kernel
  exact ⟨_, _, _, reachable_markedOne, carrier_markedOne, by decide, Prod.ext houtcome rfl, hafter,
    by decide⟩

end Node

end MeshTelemetry
