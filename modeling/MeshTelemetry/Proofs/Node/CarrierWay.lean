import Mathlib.Logic.Relation
import MeshTelemetry.Proofs.Node.CarrierLife
import MeshTelemetry.Proofs.Node.Transfer

/-!
# The way of a carrier

A carrier goes from the node that makes it into a frame, from the frame into the hand of another
node, and on from there. Every step of the way is something that a node performs, and however many
kinds of steps there are, only three things befall the content: the budget decides about it, or it
goes on as it is, or a neighbour takes it over. What these three do to a content, every way does.
-/

namespace MeshTelemetry

/-- What a node of these settings reads from a frame that it receives. -/
def Settings.reads? (settings : Settings) (frame : Frame) : Option TelemetryContent :=
  if frame.hasElements then
    match readTelemetry settings frame.data with
    | .ok (some (content, _)) => some content
    | .ok none | .error _ => none
  else none

theorem Settings.reads?_eq_some_iff {settings : Settings} {frame : Frame}
    {content : TelemetryContent} :
    settings.reads? frame = some content ↔
      frame.hasElements = true ∧
        ∃ listLength, readTelemetry settings frame.data = .ok (some (content, listLength)) := by
  unfold reads?
  constructor
  · intro h
    split at h
    · rename_i hflag
      split at h
      · rename_i listLength hread
        cases h
        exact ⟨hflag, listLength, hread⟩
      · cases h
      · cases h
    · cases h
  · rintro ⟨hflag, listLength, hread⟩
    rw [if_pos hflag, hread]

/-- What a node may carry and has sent is read by a neighbour of its settings. -/
theorem Frame.Bears.reads?_received {settings : Settings} {frame : Frame} {header : TelemetryHeader}
    {carried : List Record} {payload : Bytes} (h : frame.Bears ⟨header, carried⟩ payload)
    (husable : settings.Usable) (hcarry : settings.MayCarry (some header) carried)
    (hfits : TelemetryContent.encodedLength ⟨header, carried⟩ ≤ maxPayloadContent) :
    settings.reads? frame.received = some ⟨header, carried⟩ := by
  obtain ⟨_, hread⟩ := h.readTelemetry_received husable.recordSize_pos (hcarry.subtype header rfl)
    hcarry.layout hfits
  exact Settings.reads?_eq_some_iff.mpr ⟨h.announced, _, hread⟩

/-- Where a carrier can be: where it is being made, in a node's hand, or in a frame that a node has
sent. -/
inductive CarrierPlace where
  | made (node : Node)
  | held (node : Node)
  | sent (node : Node) (frame : Frame)

namespace CarrierPlace

def node : CarrierPlace → Node
  | made node | held node | sent node _ => node

def layout (place : CarrierPlace) : RecordLayout := place.node.settings.layout

/-- The carrier at this place, if there is one: no record has entered it where it is made, and in a
frame it is what a neighbour of the same settings reads. -/
def content? : CarrierPlace → Option TelemetryContent
  | made node => some ⟨node.freshHeader, []⟩
  | held node => node.carrier.map (⟨·, node.carrierRecords⟩)
  | sent node frame => node.settings.reads? frame.received

/-- The channels on which the carrier is heard when the node performs a step from here. -/
def heardBy (node : Node) : CarrierPlace → List Nat
  | made _ | held _ => []
  | sent _ _ => [node.environment.channel.toNat]

theorem content?_held {node : Node} {header : TelemetryHeader} {carried : List Record}
    (hheader : node.carrier = some header) (hcarried : node.carrierRecords = carried) :
    (held node).content? = some ⟨header, carried⟩ := by
  rw [content?, hheader, hcarried]
  rfl

theorem exists_header_of_content? {node : Node} {content : TelemetryContent}
    (h : (held node).content? = some content) :
    ∃ header, node.carrier = some header ∧ content = ⟨header, node.carrierRecords⟩ := by
  obtain ⟨header, hheader, hcontent⟩ := Option.map_eq_some_iff.mp h
  exact ⟨header, hheader, hcontent.symm⟩

end CarrierPlace

open CarrierPlace

/-- A step on the way of a carrier, with the node that takes it and the operation that the node
performs: a node makes the carrier, to hold it or to send it at once, or does with it what does not
end it, or embeds it, or forwards it with a frame; and a neighbour of the same subtype without a
carrier takes it over. -/
inductive PerformedStep : CarrierPlace → Node × Node.Operation → CarrierPlace → Prop where
  | created {node : Node} {frameLength : Nat} {origin : TrafficOrigin} :
      node.carrierFor origin = none → (node.applyBudget frameLength origin).2.carrier ≠ none →
      PerformedStep (made node) (node, .applyBudget frameLength origin)
        (held (node.perform (.applyBudget frameLength origin)))
  | launched {node next : Node} {frame grown : Frame} {origin : TrafficOrigin} {written : Nat} :
      node.carrierFor origin = none → frame.Reachable →
      node.prepareOutgoing frame origin = (written, next, grown) → 0 < written →
      PerformedStep (made node) (node, .prepareOutgoing frame origin) (sent node grown)
  | kept {node : Node} {operation : Node.Operation} :
      ¬ node.EndsCarrier operation →
      PerformedStep (held node) (node, operation) (held (node.perform operation))
  | embedded {node next : Node} {frame grown : Frame} {written : Nat} :
      frame.Reachable → node.embed frame = (.ok written, next, grown) →
      PerformedStep (held node) (node, .embed frame) (sent node grown)
  | forwarded {node next : Node} {frame grown : Frame} {written : Nat} :
      frame.Reachable → node.prepareOutgoing frame .forwarder = (written, next, grown) →
      0 < written →
      PerformedStep (held node) (node, .prepareOutgoing frame .forwarder) (sent node grown)
  | taken {sender receiver : Node} {frame : Frame} {operation : Node.Operation} :
      receiver.Reachable → receiver.settings.subtype = sender.settings.subtype →
      receiver.carrier = none →
      operation = .extract frame.received false ∨ operation = .receiveFrame frame.received false →
      PerformedStep (sent sender frame) (receiver, operation) (held (receiver.perform operation))

/-- A step on the way, whoever takes it. -/
def CarrierStep (place next : CarrierPlace) : Prop := ∃ done, PerformedStep place done next

/-- A step that leads to a node of the same layout. -/
def LikeStep (place next : CarrierPlace) : Prop :=
  ∃ done, PerformedStep place done next ∧ next.layout = place.layout

/-- A way from `start` on by steps that have labels, with the labels of its steps. -/
inductive Way {Label : Type} (step : CarrierPlace → Label → CarrierPlace → Prop)
    (start : CarrierPlace) : List Label → CarrierPlace → Prop where
  | start : Way step start [] start
  | step {labels : List Label} {label : Label} {place next : CarrierPlace} :
      Way step start labels place → step place label next → Way step start (labels ++ [label]) next

/-- A way from `start` on, with all that was performed on it and by which node. -/
def PerformedWay (start : CarrierPlace) (performed : List (Node × Node.Operation))
    (later : CarrierPlace) : Prop :=
  Way PerformedStep start performed later

section

variable {Label : Type} {step : CarrierPlace → Label → CarrierPlace → Prop}
  {start later : CarrierPlace}

/-- Every way has its labels, and what has labels is a way. -/
theorem exists_way_iff :
    (∃ labels, Way step start labels later) ↔
      Relation.ReflTransGen (fun place next => ∃ label, step place label next) start later := by
  constructor
  · rintro ⟨labels, hway⟩
    induction hway with
    | start => exact .refl
    | step _ hlast ih => exact ih.tail ⟨_, hlast⟩
  · intro hsteps
    induction hsteps with
    | refl => exact ⟨[], .start⟩
    | tail _ hlast ih =>
      obtain ⟨labels, hway⟩ := ih
      obtain ⟨label, hlabel⟩ := hlast
      exact ⟨labels ++ [label], hway.step hlabel⟩

/-- What each step of some kind says about the contents holds along any way of such steps, if it can
be chained. -/
theorem Way.leads (leads : List Label → TelemetryContent → TelemetryContent → Prop)
    (hrefl : ∀ content, leads [] content content)
    (htrans : ∀ {labels others before between after}, leads labels before between →
      leads others between after → leads (labels ++ others) before after)
    (hstep : ∀ {place label next before}, step place label next → place.node.Reachable →
      place.content? = some before →
      next.node.Reachable ∧ ∃ after, next.content? = some after ∧ leads [label] before after)
    {labels : List Label} (hway : Way step start labels later) (hstart : start.node.Reachable)
    {content : TelemetryContent} (hcontent : start.content? = some content) :
    later.node.Reachable ∧ ∃ after, later.content? = some after ∧ leads labels content after := by
  induction hway with
  | start => exact ⟨hstart, content, hcontent, hrefl content⟩
  | step _ hlast ih =>
    obtain ⟨hplace, between, hbetween, hfirst⟩ := ih
    obtain ⟨hlater, after, hafter, hsecond⟩ := hstep hlast hplace hbetween
    exact ⟨hlater, after, hafter, htrans hfirst hsecond⟩

end

theorem exists_performedWay_iff {start later : CarrierPlace} :
    (∃ performed, PerformedWay start performed later) ↔
      Relation.ReflTransGen CarrierStep start later :=
  exists_way_iff

namespace Node

/-- The operation has the second node extract from a frame that travels on. Where the frame is also
captured, that comes first. -/
inductive Extracts (node : Node) : Operation → Node → Frame → Prop where
  | atOnce (frame : Frame) : node.Extracts (.extract frame false) node frame
  | captured (frame : Frame) :
      node.Extracts (.receiveFrame frame false) (node.capture frame.wire) frame

end Node

/-- What a step makes of a content that comes from a node of this layout and is heard on these
channels: the budget decides about it, or it goes on as it is, or it is taken over, with the first
of its records if there are more than slots. -/
inductive CarrierChange (layout : RecordLayout) :
    TelemetryContent → Node × Node.Operation → List Nat → TelemetryContent → Prop where
  | decided {node deciding : Node} {operation : Node.Operation} {frameLength : Nat}
      {origin : TrafficOrigin} {header : TelemetryHeader} {carried : List Record} :
      node.AppliesBudget operation deciding frameLength origin →
      deciding.Budgeted frameLength origin (deciding.applyBudget frameLength origin).1
        (some header) carried →
      CarrierChange layout (node.contentFor origin) (node, operation) [] ⟨header, carried⟩
  | unchanged {node : Node} {operation : Node.Operation} {content : TelemetryContent} :
      node.carrier ≠ none →
      (∀ deciding frameLength origin,
        ¬ node.AppliesBudget operation deciding frameLength origin) →
      CarrierChange layout content (node, operation) [] content
  | taken {node hearing next : Node} {operation : Node.Operation} {frame left : Frame}
      {before content : TelemetryContent} :
      hearing.Invariant → node.Extracts operation hearing frame → hearing.carrier = none →
      hearing.extract frame false = (.ok (some content), next, left) →
      content.header = before.header →
      (node.settings.layout = layout →
        content = before.fillChannels node.environment.channel.toNat) →
      CarrierChange layout before (node, operation) [node.environment.channel.toNat]
        ⟨hearing.takenHeader content, content.records.take hearing.settings.carrierCapacity⟩

namespace Node

theorem contentFor_of_carrier {node : Node} {header : TelemetryHeader}
    (h : node.carrier = some header) :
    node.contentFor .forwarder = ⟨header, node.carrierRecords⟩ :=
  contentFor_of_some h

theorem contentFor_afterSeen (node : Node) (origin : TrafficOrigin) :
    node.afterSeen.contentFor origin = node.contentFor origin := by
  cases origin <;> rfl

section

variable {node deciding hearing : Node} {operation : Operation} {frameLength : Nat}
  {origin : TrafficOrigin} {frame : Frame}

theorem AppliesBudget.invariant
    (happlies : node.AppliesBudget operation deciding frameLength origin) (h : node.Invariant) :
    deciding.Invariant := by
  cases happlies with
  | atOnce => exact h
  | leaving => exact h.withCounters _

theorem AppliesBudget.contentFor_eq
    (happlies : node.AppliesBudget operation deciding frameLength origin) :
    deciding.contentFor origin = node.contentFor origin := by
  cases happlies with
  | atOnce => rfl
  | leaving => exact node.contentFor_afterSeen origin

/-- Where the budget leaves a carrier, it has decided about the content that it was applied to. -/
theorem AppliesBudget.change (happlies : node.AppliesBudget operation deciding frameLength origin)
    (h : node.Invariant) (hsome : (deciding.applyBudget frameLength origin).2.carrier ≠ none)
    (layout : RecordLayout) :
    ∃ after, (held (deciding.applyBudget frameLength origin).2).content? = some after ∧
      CarrierChange layout (node.contentFor origin) (node, operation) [] after := by
  obtain ⟨outcome, next, carrier, carried, heq, hbudgeted, hnext⟩ :=
    applyBudget_spec (happlies.invariant h) frameLength origin
  obtain ⟨header, hheader⟩ := Option.ne_none_iff_exists'.mp hsome
  rw [heq] at hheader ⊢
  obtain rfl : carrier = some header := hnext.carrier.symm.trans hheader
  refine ⟨_, content?_held hheader hnext.carrierRecords_eq, .decided happlies ?_⟩
  rw [heq]
  exact hbudgeted

theorem Extracts.settings (hextracts : node.Extracts operation hearing frame) :
    hearing.settings = node.settings := by
  cases hextracts <;> rfl

theorem Extracts.environment (hextracts : node.Extracts operation hearing frame) :
    hearing.environment = node.environment := by
  cases hextracts <;> rfl

theorem Extracts.carrier (hextracts : node.Extracts operation hearing frame) :
    hearing.carrier = node.carrier := by
  cases hextracts <;> rfl

theorem Extracts.invariant (hextracts : node.Extracts operation hearing frame)
    (h : node.Invariant) : hearing.Invariant := by
  cases hextracts with
  | atOnce => exact h
  | captured => exact h.capture frame.wire

theorem Extracts.perform_eq (hextracts : node.Extracts operation hearing frame) :
    node.perform operation = (hearing.extract frame false).2.1 := by
  cases hextracts <;> rfl

end

/-- An embedded carrier is sent as it was in hand. -/
theorem content?_embed {node next : Node} (h : node.Invariant) {frame grown : Frame}
    (hframe : frame.WellFormed) {header : TelemetryHeader} (hheader : node.carrier = some header)
    {written : Nat} (heq : node.embed frame = (.ok written, next, grown)) :
    (sent node grown).content? = some ⟨header, node.carrierRecords⟩ := by
  obtain ⟨hbears, hfits⟩ := bears_of_embed h hheader hframe heq
  exact hbears.reads?_received h.usable (hheader ▸ h.mayCarry) hfits

/-- What leaves with a frame is what the budget has left in hand. -/
theorem content?_prepareOutgoing {node next : Node} (h : node.Invariant) {frame grown : Frame}
    (hframe : frame.WellFormed) {origin : TrafficOrigin} {written : Nat}
    (heq : node.prepareOutgoing frame origin = (written, next, grown)) (hwritten : 0 < written) :
    frame.kind.carriesTelemetry = true ∧
      (node.afterSeen.applyBudget frame.length origin).2.carrier ≠ none ∧
        (sent node grown).content?
          = (held (node.afterSeen.applyBudget frame.length origin).2).content? := by
  have hseen : node.afterSeen.Invariant := h.withCounters _
  obtain ⟨outcome, decided, _, _, happly, _, hbecomes⟩ :=
    applyBudget_spec hseen frame.length origin
  have hdecided := hseen.applyBudget frame.length origin
  have hsettings : decided.settings = node.settings := hbecomes.settings
  rw [happly] at hdecided ⊢
  cases hkind : frame.kind.carriesTelemetry with
  | false =>
    rw [prepareOutgoing, if_neg (by simp [hkind])] at heq
    cases heq
    exact absurd hwritten (Nat.lt_irrefl 0)
  | true =>
    rw [prepareOutgoing_of_data hkind (congrArg Prod.snd happly)] at heq
    cases hcarrier : decided.carrier with
    | none =>
      rw [if_neg (by simp [hcarrier])] at heq
      cases heq
      exact absurd hwritten (Nat.lt_irrefl 0)
    | some header =>
      refine ⟨rfl, Option.some_ne_none header, ?_⟩
      rw [if_pos (by simp [hcarrier])] at heq
      cases hembed : decided.embed frame with
      | mk result rest =>
        rw [hembed] at heq
        cases heq
        cases result with
        | error err => exact absurd hwritten (Nat.lt_irrefl 0)
        | ok sentBytes =>
          rw [content?_held hcarrier rfl, ← content?_embed hdecided hframe hcarrier hembed,
            content?, content?, hsettings]

/-- A frame that leaves with telemetry holds what the budget has made of the carrier. -/
theorem change_of_prepareOutgoing {node next : Node} (h : node.Invariant) {frame grown : Frame}
    (hframe : frame.WellFormed) {origin : TrafficOrigin} {written : Nat}
    (heq : node.prepareOutgoing frame origin = (written, next, grown)) (hwritten : 0 < written)
    (layout : RecordLayout) :
    ∃ after, (sent node grown).content? = some after ∧
      CarrierChange layout (node.contentFor origin) (node, .prepareOutgoing frame origin) []
        after := by
  obtain ⟨hdata, hsome, hsent⟩ := content?_prepareOutgoing h hframe heq hwritten
  rw [hsent]
  exact AppliesBudget.change (.leaving hdata origin) h hsome layout

/-- What does not end the carrier leaves in hand what the budget has made of it, or the carrier as
it is. -/
theorem change_of_not_ends {node : Node} (h : node.Invariant) {header : TelemetryHeader}
    (hheader : node.carrier = some header) {operation : Operation}
    (hgoes : ¬ node.EndsCarrier operation) (layout : RecordLayout) :
    ∃ after, (held (node.perform operation)).content? = some after ∧
      CarrierChange layout ⟨header, node.carrierRecords⟩ (node, operation) [] after := by
  rcases perform_cases h hheader hgoes with
    ⟨frameLength, outcome, next, after, carried, rfl, heq, _, hcarrier, _⟩
    | ⟨hother, hcarrier, hrecords⟩
  · have hsome : (node.applyBudget frameLength .forwarder).2.carrier ≠ none := by
      simp [heq, hcarrier]
    have hchange :=
      AppliesBudget.change (.atOnce frameLength .forwarder) h hsome layout
    rwa [contentFor_of_carrier hheader] at hchange
  · exact ⟨_, content?_held hcarrier hrecords, .unchanged (by simp [hheader]) hother⟩

/-- What a node reads, every neighbour of its subtype extracts, with the channels filled in. -/
theorem extract_of_reads {sender receiver : Node} {frame : Frame} {before : TelemetryContent}
    (hsender : sender.Invariant) (hreceiver : receiver.Invariant)
    (hsubtype : receiver.settings.subtype = sender.settings.subtype)
    (hbefore : sender.settings.reads? frame = some before) (destinedHere : Bool) :
    ∃ content left,
      receiver.extract frame destinedHere
        = (.ok (some content), receiver.takeIn content destinedHere, left) ∧
      content.header = before.header ∧
        (receiver.settings.layout = sender.settings.layout →
          content = before.fillChannels receiver.environment.channel.toNat) := by
  obtain ⟨hflag, listLength, hread⟩ := Settings.reads?_eq_some_iff.mp hbefore
  obtain ⟨found, hfound, hheader, hlike⟩ := readTelemetry_of_layout hsender.usable.recordSize_pos
    hreceiver.usable.recordSize_pos hsubtype hread
  obtain ⟨_, list, rest, _, hdata, rfl, _⟩ :=
    exists_listsTelemetry_of_readTelemetry hreceiver.usable.recordSize_pos hfound
  refine ⟨_, _, extract_of_content hflag hdata hfound destinedHere, hheader, ?_⟩
  intro hlayout
  rw [hlike hlayout]

theorem exists_extracts {node : Node} {operation : Operation} {frame : Frame}
    (h : operation = .extract frame false ∨ operation = .receiveFrame frame false) :
    ∃ hearing, node.Extracts operation hearing frame := by
  rcases h with rfl | rfl
  · exact ⟨node, .atOnce frame⟩
  · exact ⟨node.capture frame.wire, .captured frame⟩

theorem extract_settings {node : Node} (h : node.Invariant) (frame : Frame) (destinedHere : Bool) :
    (node.extract frame destinedHere).2.1.settings = node.settings := by
  obtain ⟨result, next, left, heq, hextraction⟩ := extract_spec h frame destinedHere
  rw [heq]
  cases hextraction with
  | nothing | malformed => rfl
  | stripped => exact (takeIn_settings h _ destinedHere).1

/-- A neighbour without a carrier takes over what was sent. -/
theorem change_of_extracts {sender receiver hearing : Node} {operation : Operation} {frame : Frame}
    {before : TelemetryContent} (hextracts : receiver.Extracts operation hearing frame)
    (hsender : sender.Invariant) (hreceiver : receiver.Invariant)
    (hsubtype : receiver.settings.subtype = sender.settings.subtype)
    (hnone : receiver.carrier = none) (hbefore : sender.settings.reads? frame = some before) :
    ∃ after, (held (receiver.perform operation)).content? = some after ∧
      CarrierChange sender.settings.layout before (receiver, operation)
        [receiver.environment.channel.toNat] after := by
  have hhearing := hextracts.invariant hreceiver
  have hempty : hearing.carrier = none := hextracts.carrier.trans hnone
  rw [← hextracts.settings] at hsubtype
  obtain ⟨content, left, heq, hheader, hlike⟩ :=
    extract_of_reads hsender hhearing hsubtype hbefore false
  obtain ⟨hcarrier, hrecords⟩ := takeIn_carries hhearing content hempty
  rw [hextracts.settings, hextracts.environment] at hlike
  rw [hextracts.perform_eq, heq]
  exact ⟨_, content?_held hcarrier hrecords,
    .taken hhearing hextracts hempty heq hheader hlike⟩

theorem takenHeader_precedes (node : Node) (content : TelemetryContent) :
    content.header.Precedes (node.takenHeader content) := by
  unfold takenHeader
  split
  · exact content.header.precedes_setOverflowed
  · exact .refl content.header

theorem isOverflowed_takenHeader {node : Node} {content : TelemetryContent}
    (hlost : node.settings.carrierCapacity < content.records.length) :
    (node.takenHeader content).isOverflowed = true := by
  unfold takenHeader
  cases hmarked : content.header.isOverflowed with
  | true =>
    rw [Bool.not_true, Bool.and_false, if_neg Bool.false_ne_true]
    exact hmarked
  | false =>
    rw [Bool.not_false, Bool.and_true, if_pos (decide_eq_true hlost)]
    exact content.header.control.isOverflowed_setOverflowed

end Node

section

variable {layout : RecordLayout} {before after : TelemetryContent} {done : Node × Node.Operation}
  {channels : List Nat}

/-- The header is one that the header before can have become. -/
theorem CarrierChange.header_precedes (hchange : CarrierChange layout before done channels after) :
    before.header.Precedes after.header := by
  cases hchange with
  | decided happlies hbudgeted =>
    rw [← happlies.contentFor_eq]
    exact hbudgeted.descends.header
  | unchanged => exact .refl _
  | @taken _ hearing _ _ _ _ _ content _ _ _ _ hheader =>
    rw [← hheader]
    exact hearing.takenHeader_precedes content

/-- The records stay in their places as long as nobody cuts them by another layout. -/
theorem CarrierChange.descends (hchange : CarrierChange layout before done channels after)
    (hlayout : channels ≠ [] → done.1.settings.layout = layout) :
    before.Descends channels after := by
  have hprecedes := hchange.header_precedes
  cases hchange with
  | decided happlies hbudgeted =>
    rw [← happlies.contentFor_eq]
    exact hbudgeted.descends
  | unchanged => exact .refl _
  | taken _ _ _ _ _ hlike =>
    obtain rfl := hlike (hlayout nofun)
    refine TelemetryContent.descends_take hprecedes fun hlost => Node.isOverflowed_takenHeader ?_
    rw [TelemetryContent.fillChannels, List.length_map]
    exact hlost

end

section

variable {place next : CarrierPlace} {done : Node × Node.Operation} {before : TelemetryContent}

theorem PerformedStep.reachable (hstep : PerformedStep place done next)
    (hplace : place.node.Reachable) : next.node.Reachable := by
  cases hstep with
  | @created node frameLength origin =>
    exact @Node.Reachable.perform node (.applyBudget frameLength origin) hplace
  | @kept node operation => exact @Node.Reachable.perform node operation hplace
  | launched | embedded | forwarded => exact hplace
  | @taken _ receiver _ operation hreceiver =>
    exact @Node.Reachable.perform receiver operation hreceiver

/-- **One step on the way.** The next place has the carrier too, and its content is one of the three
things that can become of it. -/
theorem PerformedStep.change (hstep : PerformedStep place done next)
    (hplace : place.node.Reachable) (hbefore : place.content? = some before) :
    ∃ after, next.content? = some after ∧
      CarrierChange place.layout before done (place.heardBy done.1) after := by
  have hinvariant := hplace.invariant
  cases hstep with
  | @created node frameLength origin hnone hsome =>
    have hnode : node.Invariant := hinvariant
    have hchange := Node.AppliesBudget.change (.atOnce frameLength origin) hnode hsome
      node.settings.layout
    rwa [Node.contentFor_of_none hnone, Option.some.inj hbefore] at hchange
  | @launched node _ _ _ _ _ hnone hframe heq hwritten =>
    have hnode : node.Invariant := hinvariant
    have hchange := Node.change_of_prepareOutgoing hnode hframe.wellFormed heq hwritten
      node.settings.layout
    rwa [Node.contentFor_of_none hnone, Option.some.inj hbefore] at hchange
  | kept hgoes =>
    obtain ⟨header, hheader, rfl⟩ := exists_header_of_content? hbefore
    exact Node.change_of_not_ends hinvariant hheader hgoes _
  | embedded hframe heq =>
    obtain ⟨header, hheader, rfl⟩ := exists_header_of_content? hbefore
    exact ⟨_, Node.content?_embed hinvariant hframe.wellFormed hheader heq,
      .unchanged (by simp [hheader]) (Node.not_appliesBudget nofun nofun)⟩
  | @forwarded node _ _ _ _ hframe heq hwritten =>
    have hnode : node.Invariant := hinvariant
    obtain ⟨header, hheader, rfl⟩ := exists_header_of_content? hbefore
    have hchange := Node.change_of_prepareOutgoing hnode hframe.wellFormed heq hwritten
      node.settings.layout
    rwa [Node.contentFor_of_carrier hheader] at hchange
  | taken hreceiver hsubtype hnone hoperation =>
    obtain ⟨hearing, hextracts⟩ := Node.exists_extracts hoperation
    exact Node.change_of_extracts hextracts hinvariant hreceiver.invariant hsubtype hnone hbefore

/-- The node that hears the carrier is the one that has it next. -/
theorem PerformedStep.layout_of_heard (hstep : PerformedStep place done next)
    (hheard : place.heardBy done.1 ≠ []) : next.layout = done.1.settings.layout := by
  cases hstep with
  | created | launched | kept | embedded | forwarded => exact absurd rfl hheard
  | taken hreceiver _ _ hoperation =>
    obtain ⟨hearing, hextracts⟩ := Node.exists_extracts hoperation
    have hhearing := hextracts.invariant hreceiver.invariant
    rw [layout, node, hextracts.perform_eq, Node.extract_settings hhearing, hextracts.settings]

end

/-- What each of the changes says about the contents holds along any way, if it can be chained. -/
theorem PerformedWay.leads {start later : CarrierPlace}
    (leads : List (Node × Node.Operation) → TelemetryContent → TelemetryContent → Prop)
    (hrefl : ∀ content, leads [] content content)
    (htrans : ∀ {performed others before between after}, leads performed before between →
      leads others between after → leads (performed ++ others) before after)
    (hchange : ∀ {layout before done channels after},
      CarrierChange layout before done channels after → leads [done] before after)
    {performed : List (Node × Node.Operation)} (hway : PerformedWay start performed later)
    (hstart : start.node.Reachable) {content : TelemetryContent}
    (hcontent : start.content? = some content) :
    later.node.Reachable ∧
      ∃ after, later.content? = some after ∧ leads performed content after := by
  refine Way.leads leads hrefl htrans ?_ hway hstart hcontent
  intro place done next before hstep hplace hbefore
  obtain ⟨after, hafter, hbecomes⟩ := hstep.change hplace hbefore
  exact ⟨hstep.reachable hplace, after, hafter, hchange hbecomes⟩

end MeshTelemetry
