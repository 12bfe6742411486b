import MeshTelemetry.Proofs.Node.CarrierWay

/-!
# The journey of a record

A record enters a carrier at the end of its records and keeps its place from then on: records before
it cannot go without it, and others only join behind it. What receivers do to it is to fill in the
channel. A node leaves the channel of its own sample open, so the first receiver on a channel that is
not zero settles it, and after that the sample stays as it is. The steps of a journey are those of
the carrier; here each of them also says on which channel the carrier was heard.
-/

namespace MeshTelemetry

/-- The first of these channels that is not zero in the four bits that a sample has for it, or zero
if there is none. -/
def firstChannel (channels : List Nat) : Fin 16 :=
  ((channels.map lowNibble).find? (· ≠ 0)).getD 0

theorem firstChannel_cons_zero {channel : Nat} (h : lowNibble channel = 0) (channels : List Nat) :
    firstChannel (channel :: channels) = firstChannel channels := by
  rw [firstChannel, List.map_cons, List.find?_cons_of_neg (by simp [h])]
  rfl

theorem firstChannel_cons_ne_zero {channel : Nat} (h : lowNibble channel ≠ 0)
    (channels : List Nat) : firstChannel (channel :: channels) = lowNibble channel := by
  rw [firstChannel, List.map_cons, List.find?_cons_of_pos (by simp [h])]
  rfl

namespace Record

theorem filledIn_of_named {sample : Sample} (hnamed : sample.channel ≠ 0) (channels : List Nat) :
    (Record.sample sample).filledIn channels = .sample sample := by
  have hval : sample.channel.val ≠ 0 := fun hzero => hnamed (Fin.ext hzero)
  induction channels with
  | nil => rfl
  | cons channel channels ih =>
    have hsame : (Record.sample sample).fillChannel channel = .sample sample :=
      congrArg Record.sample (if_neg hval)
    rw [filledIn, List.foldl_cons, hsame]
    exact ih

theorem filledIn_of_unnamed {sample : Sample} (hunnamed : sample.channel = 0)
    (channels : List Nat) :
    (Record.sample sample).filledIn channels
      = .sample { sample with channel := firstChannel channels } := by
  have hval : sample.channel.val = 0 := congrArg Fin.val hunnamed
  induction channels with
  | nil =>
    rw [firstChannel, List.map_nil, List.find?_nil, Option.getD_none, ← hunnamed]
    rfl
  | cons channel channels ih =>
    have hfilled : (Record.sample sample).fillChannel channel
        = .sample { sample with channel := lowNibble channel } :=
      congrArg Record.sample (if_pos hval)
    rw [filledIn, List.foldl_cons, hfilled]
    -- A channel that shows in none of the bits leaves the sample open for the receivers after it.
    by_cases hzero : lowNibble channel = 0
    · rw [hzero, ← hunnamed, firstChannel_cons_zero hzero]
      exact ih
    · rw [firstChannel_cons_ne_zero hzero]
      exact @filledIn_of_named { sample with channel := lowNibble channel } hzero channels

end Record

/-- A node leaves the channel of its own sample open. -/
theorem Node.channel_of_ownRecord {node : Node} {bitmap : UInt8} {origin : TrafficOrigin}
    {sample : Sample} (h : node.ownRecord? bitmap origin = some (.sample sample)) :
    sample.channel = 0 := by
  unfold ownRecord? Environment.ownRecord? at h
  split at h
  · cases hlayout : node.settings.layout with
    | filler size =>
      rw [hlayout] at h
      cases h
    | sample =>
      rw [hlayout] at h
      cases h
      cases origin <;> rfl
  · cases h

open CarrierPlace

/-- An admitted record enters the carrier behind all others. -/
theorem Node.content?_of_admitted {node : Node} (h : node.Invariant) {frameLength : Nat}
    {origin : TrafficOrigin} {sequence : UInt8}
    (hadmitted : (node.applyBudget frameLength origin).1 = .admitted sequence) :
    ∃ record header,
      node.ownRecord? (node.contentFor origin).header.bitmap origin = some record ∧
        (held (node.applyBudget frameLength origin).2).content?
          = some ⟨header, (node.contentFor origin).records ++ [record]⟩ := by
  obtain ⟨outcome, next, carrier, carried, heq, hbudgeted, hnext⟩ :=
    applyBudget_spec h frameLength origin
  rw [heq] at hadmitted ⊢
  obtain rfl : outcome = .admitted sequence := hadmitted
  obtain ⟨record, header, hrecord, rfl, rfl⟩ := hbudgeted.of_admitted
  exact ⟨record, header, hrecord, content?_held hnext.carrier hnext.carrierRecords_eq⟩

/-- A step of a journey between nodes of one layout, with the channel on which the carrier was heard:
a node that holds it does with it what does not end it, or sends it, and a neighbour without a
carrier takes it over. -/
inductive JourneyStep : CarrierPlace → List Nat → CarrierPlace → Prop where
  | own {node : Node} {done : Node × Node.Operation} {next : CarrierPlace} :
      PerformedStep (held node) done next → JourneyStep (held node) [] next
  | heard {sender receiver : Node} {frame : Frame} {operation : Node.Operation}
      {next : CarrierPlace} :
      PerformedStep (sent sender frame) (receiver, operation) next →
      receiver.settings.layout = sender.settings.layout →
      JourneyStep (sent sender frame) [receiver.environment.channel.toNat] next

/-- A journey from `start` on, with the channels on which the carrier was heard. -/
def Journey (start : CarrierPlace) (channels : List Nat) (later : CarrierPlace) : Prop :=
  ∃ heard, Way JourneyStep start heard later ∧ heard.flatten = channels

theorem JourneyStep.descends {place next : CarrierPlace} {heard : List Nat}
    (hstep : JourneyStep place heard next) (hplace : place.node.Reachable)
    {before : TelemetryContent} (hbefore : place.content? = some before) :
    next.node.Reachable ∧ ∃ after, next.content? = some after ∧ before.Descends heard after := by
  cases hstep with
  | own hstep =>
    obtain ⟨after, hafter, hchange⟩ := hstep.change hplace hbefore
    exact ⟨hstep.reachable hplace, after, hafter, hchange.descends fun hheard => absurd rfl hheard⟩
  | heard hstep hlayout =>
    obtain ⟨after, hafter, hchange⟩ := hstep.change hplace hbefore
    exact ⟨hstep.reachable hplace, after, hafter, hchange.descends fun _ => hlayout⟩

/-- Along a journey no record changes its place. -/
theorem Journey.descends {start later : CarrierPlace} {channels : List Nat}
    (hjourney : Journey start channels later) (hstart : start.node.Reachable)
    {content : TelemetryContent} (hcontent : start.content? = some content) :
    later.node.Reachable ∧
      ∃ after, later.content? = some after ∧ content.Descends channels after := by
  obtain ⟨heard, hway, rfl⟩ := hjourney
  refine hway.leads (fun heard before after => before.Descends heard.flatten after) .refl ?_ ?_
    hstart hcontent
  · intro heard others before between after hfirst hsecond
    rw [List.flatten_append]
    exact hfirst.trans hsecond
  · intro place heard next before hstep hplace hbefore
    rw [List.flatten_singleton]
    exact hstep.descends hplace hbefore

/-- What is sent at the end of a journey reaches every neighbour, whether it takes it over or not. -/
theorem Node.extract_sent {sender last : Node} (hsender : sender.Invariant) (hlast : last.Invariant)
    (hsubtype : last.settings.subtype = sender.settings.subtype)
    (hlayout : last.settings.layout = sender.settings.layout) {frame : Frame}
    {content : TelemetryContent} (hcontent : (sent sender frame).content? = some content)
    (destinedHere : Bool) :
    (last.extract frame.received destinedHere).1
        = .ok (some (content.fillChannels last.environment.channel.toNat)) ∧
      (last.receiveFrame frame.received destinedHere).1
        = some (content.fillChannels last.environment.channel.toNat) := by
  have hcaptured := hlast.capture frame.received.wire
  obtain ⟨_, _, hextract, _, hsame⟩ := extract_of_reads hsender hlast hsubtype hcontent destinedHere
  obtain ⟨_, _, hreceive, _, hsameCaptured⟩ :=
    extract_of_reads hsender hcaptured hsubtype hcontent destinedHere
  obtain rfl := hsame hlayout
  obtain rfl := hsameCaptured hlayout
  rw [receiveFrame, hextract, hreceive]
  exact ⟨rfl, rfl⟩

/-- **A record survives every journey.** However far a carrier travels between nodes of one layout,
and whatever else these do, its records stay in their places: some may be lost from the end, and
others may join behind them if none is lost. A sample that a node has made keeps its node id, its
slot and its signal strength, and whoever extracts it at the end finds in it the first channel that
was not zero on which the carrier was heard. -/
theorem record_survives {start : CarrierPlace} (hstart : start.node.Reachable)
    {content : TelemetryContent} (hcontent : start.content? = some content) {channels : List Nat}
    {later : CarrierPlace} (hjourney : Journey start channels later) :
    ∃ carried, later.content? = some carried ∧ content.Descends channels carried ∧
      ∀ sender frame, later = sent sender frame → ∀ last : Node, last.Reachable →
        last.settings.subtype = sender.settings.subtype →
        last.settings.layout = sender.settings.layout → ∀ destinedHere,
          ∃ extracted,
            (last.extract frame.received destinedHere).1 = .ok (some extracted) ∧
            (last.receiveFrame frame.received destinedHere).1 = some extracted ∧
            content.Descends (channels ++ [last.environment.channel.toNat]) extracted ∧
            ∀ (producer : Node) bitmap origin sample index,
              producer.ownRecord? bitmap origin = some (.sample sample) →
              content.records[index]? = some (.sample sample) →
              index < extracted.records.length →
              extracted.records[index]? = some (.sample
                { sample with
                  channel := firstChannel (channels ++ [last.environment.channel.toNat]) }) := by
  obtain ⟨hreachable, carried, hcarried, hdescends⟩ := hjourney.descends hstart hcontent
  refine ⟨carried, hcarried, hdescends, ?_⟩
  rintro sender frame rfl last hlast hsubtype hlayout destinedHere
  have hsender : sender.Invariant := hreachable.invariant
  obtain ⟨hextract, hreceive⟩ :=
    Node.extract_sent hsender hlast.invariant hsubtype hlayout hcarried destinedHere
  have hextracted := hdescends.trans
    (carried.descends_fillChannels last.environment.channel.toNat)
  refine ⟨_, hextract, hreceive, hextracted, ?_⟩
  intro producer bitmap origin sample index hown hrecord hindex
  have hfilled := hextracted.getElem?_records hrecord hindex
  rw [Record.filledIn_of_unnamed (Node.channel_of_ownRecord hown)] at hfilled
  exact hfilled

namespace Node

/-- A node that reports itself with the slot 0x105. -/
def reporter : Node where
  settings := {}
  environment := { nodeId := 1, clock := 0x105 }
  store := .ofCapacities 32 256

/-- A node on a channel that shows in none of the four bits. -/
def relay : Node where
  settings := {}
  environment := { nodeId := 2, channel := 0x10 }
  store := .ofCapacities 32 256

/-- What the reporter sends once it has made a carrier. -/
def firstHop : Frame :=
  ((reporter.perform (.applyBudget 18 .originator)).embed (.outgoing .data [] [1, 2, 3])).2.2

/-- What the relay sends after it has taken the carrier over. -/
def secondHop : Frame :=
  ((relay.perform (.receiveFrame firstHop.received false)).prepareOutgoing
    (.outgoing .data [] [1, 2, 3]) .forwarder).2.2

theorem journey_secondHop :
    Journey (held (reporter.perform (.applyBudget 18 .originator))) [0x10]
      (sent (relay.perform (.receiveFrame firstHop.received false)) secondHop) := by
  have hrelay : Node.start {} { nodeId := 2, channel := 0x10 } = .ok relay := rfl
  have hpayload : Frame.Reachable (.outgoing .data [] [1, 2, 3]) :=
    .outgoing .data [] [1, 2, 3] defaultHeaderRoom
  have hembed : ((reporter.perform (.applyBudget 18 .originator)).embed
      (.outgoing .data [] [1, 2, 3])).1 = .ok 15 := by decide +kernel
  have hprepare : ((relay.perform (.receiveFrame firstHop.received false)).prepareOutgoing
      (.outgoing .data [] [1, 2, 3]) .forwarder).1 = 20 := by decide +kernel
  have hsent : JourneyStep (held (reporter.perform (.applyBudget 18 .originator))) []
      (sent (reporter.perform (.applyBudget 18 .originator)) firstHop) :=
    .own (.embedded hpayload (Prod.ext hembed rfl))
  have htaken : PerformedStep (sent (reporter.perform (.applyBudget 18 .originator)) firstHop)
      (relay, .receiveFrame firstHop.received false)
      (held (relay.perform (.receiveFrame firstHop.received false))) :=
    .taken (.start hrelay) rfl rfl (.inr rfl)
  have hheard : JourneyStep (sent (reporter.perform (.applyBudget 18 .originator)) firstHop) [0x10]
      (held (relay.perform (.receiveFrame firstHop.received false))) := .heard htaken rfl
  have hforwarded : JourneyStep (held (relay.perform (.receiveFrame firstHop.received false))) []
      (sent (relay.perform (.receiveFrame firstHop.received false)) secondHop) :=
    .own (.forwarded hpayload (Prod.ext hprepare rfl) (by decide))
  exact ⟨[[], [0x10], []], .step (.step (.step .start hsent) hheard) hforwarded, rfl⟩

/-- The relay has left the channel of the reporter's sample open, and the last node fills it in. -/
theorem record_survives_secondHop :
    ∃ last extracted, Node.start {} { nodeId := 3, channel := 0x13 } = .ok last ∧
      (last.extract secondHop.received true).1 = .ok (some extracted) ∧
        extracted.records[0]? = some (.sample ⟨1, 3, 0x105, 0⟩) := by
  let last : Node :=
    { settings := {}
      environment := { nodeId := 3, channel := 0x13 }
      store := .ofCapacities 32 256 }
  have hlast : Node.start {} { nodeId := 3, channel := 0x13 } = .ok last := rfl
  have hreporter : reporter.Reachable := @Reachable.start {} { nodeId := 1, clock := 0x105 } _ rfl
  have hown : reporter.ownRecord? (reporter.contentFor .originator).header.bitmap .originator
      = some (.sample ⟨1, 0, 0x105, 0⟩) := by decide +kernel
  have hadmitted : (reporter.applyBudget 18 .originator).1 = .admitted 1 := by decide +kernel
  obtain ⟨record, header, hrecord, hcontent⟩ :=
    content?_of_admitted hreporter.invariant hadmitted
  obtain rfl : .sample ⟨1, 0, 0x105, 0⟩ = record := Option.some.inj (hown.symm.trans hrecord)
  have hstart : (held (reporter.perform (.applyBudget 18 .originator))).node.Reachable :=
    @Reachable.perform reporter (.applyBudget 18 .originator) hreporter
  have hsettings : (relay.perform (.receiveFrame firstHop.received false)).settings
      = relay.settings := by decide +kernel
  obtain ⟨_, _, _, harrives⟩ := record_survives hstart hcontent journey_secondHop
  obtain ⟨extracted, hextract, _, _, hkept⟩ := harrives _ _ rfl last (.start hlast)
    (by rw [hsettings]; rfl) (by rw [hsettings]; rfl) true
  have hcount : (last.extract secondHop.received true).1.toOption.join.map (·.records.length)
      = some 2 := by decide +kernel
  rw [hextract] at hcount
  have hlength : extracted.records.length = 2 := Option.some.inj hcount
  have hchannel : firstChannel ([0x10] ++ [last.environment.channel.toNat]) = 3 := by
    decide +kernel
  have hsample := hkept reporter _ .originator _ 0 hown rfl (by omega)
  rw [hchannel] at hsample
  exact ⟨last, extracted, hlast, hextract, hsample⟩

end Node

end MeshTelemetry
