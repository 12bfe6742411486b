import MeshTelemetry.Proofs.Node.Extraction
import MeshTelemetry.Proofs.Node.CarrierWay

/-!
# Reception when the pools run full

A received content goes into two pools, and each has its own answer to a lack of room. The
application's pool refuses record after record, and each refusal is counted. The carrier pool is
filled only by a node that takes the content over, stops at the first record that it refuses, and
says so in the header. A node that does not take the content over leaves its carrier pool alone, and
one that does starts with an empty one, so nothing that was there before moves the cut.
-/

namespace MeshTelemetry

/-- The content with as many records as there is room for. The header says if there was not enough,
and nothing else in it has changed. -/
structure TelemetryContent.CutTo (content : TelemetryContent) (capacity : Nat)
    (kept : TelemetryContent) : Prop where
  records : kept.records = content.records.take capacity
  isOverflowed_iff : kept.header.isOverflowed = true ↔
    content.header.isOverflowed = true ∨ capacity < content.records.length
  header : kept.header = { content.header with control := kept.header.control }
  upperBits : kept.header.control.upperBits = content.header.control.upperBits
  same : content.header.isOverflowed = true ∨ content.records.length ≤ capacity →
    kept.header = content.header

namespace Node

/-- The records that the application is served when it asks `count` times. -/
def served (node : Node) : Nat → List Record
  | 0 => []
  | count + 1 =>
    match node.nextTelemetry with
    | (none, _) => []
    | (some record, next) => record :: next.served count

/-- What has become of the node when a content has come in. -/
structure Reception (node : Node) (content : TelemetryContent) (destinedHere : Bool)
    (next : Node) : Prop where
  settings : next.settings = node.settings
  environment : next.environment = node.environment
  counters : next.counters = node.countersAfter content destinedHere
  pending : next.pending = node.pending + min content.records.length node.room
  queued : next.receivedRecords
    = (content.records.take node.room).reverse ++ node.receivedRecords
  served : ∀ count, next.served count
    = ((content.records.take node.room).reverse ++ node.served node.pending).take count
  kept : ¬ node.TakesOver destinedHere →
    next.carrier = node.carrier ∧ next.carrierRecords = node.carrierRecords
  taken : node.TakesOver destinedHere → ∃ header, next.carrier = some header ∧
    content.CutTo node.settings.carrierCapacity ⟨header, next.carrierRecords⟩

variable {node : Node} {carried received : List Record}

theorem served_eq_take (h : node.Stores carried received) (count : Nat) :
    node.served count = received.take count := by
  induction count generalizing node received with
  | zero => rw [served, List.take_zero]
  | succ count ih =>
    cases received with
    | nil => rw [served, nextTelemetry_nil h, List.take_nil]
    | cons record received =>
      obtain ⟨store, hnext, hstores⟩ := nextTelemetry_cons h
      have hrest := @ih { node with
        store := store
        counters.recordsConsumed := node.counters.recordsConsumed + 1 } _ hstores
      rw [served, hnext, List.take_succ_cons]
      exact congrArg (record :: ·) hrest

theorem served_pending (h : node.Stores carried received) : node.served node.pending = received := by
  rw [served_eq_take h, h.pending_eq, List.take_length]

/-- The header is marked if records were left out, and only then. -/
theorem cutTo_takenHeader (node : Node) (content : TelemetryContent) :
    content.CutTo node.settings.carrierCapacity
      ⟨node.takenHeader content, content.records.take node.settings.carrierCapacity⟩ := by
  have hprecedes := node.takenHeader_precedes content
  have hsame : content.header.isOverflowed = true
      ∨ content.records.length ≤ node.settings.carrierCapacity →
        node.takenHeader content = content.header := by
    rintro (hmarked | hfits)
    · rw [takenHeader, hmarked, Bool.not_true, Bool.and_false, if_neg Bool.false_ne_true]
    · have hlost : ¬ node.settings.carrierCapacity < content.records.length := by omega
      rw [takenHeader, decide_eq_false hlost, Bool.false_and, if_neg Bool.false_ne_true]
  refine ⟨rfl, ?_, ?_, hprecedes.upperBits, hsame⟩
  · constructor
    · intro hmarked
      by_cases hfits : content.records.length ≤ node.settings.carrierCapacity
      · have hheader := hsame (.inr hfits)
        rw [← hheader]
        exact .inl hmarked
      · exact .inr (by omega)
    · rintro (hmarked | hlost)
      · exact (hprecedes.marked hmarked).1
      · exact isOverflowed_takenHeader hlost
  · rw [takenHeader]
    split <;> rfl

theorem reception_takeIn (h : node.Invariant) (content : TelemetryContent) (destinedHere : Bool) :
    node.Reception content destinedHere (node.takeIn content destinedHere) := by
  obtain ⟨store, heq, hstores⟩ := takeIn_eq h content destinedHere
  have hnext : (node.takeIn content destinedHere).Stores
      (if node.TakesOver destinedHere then content.records.take node.settings.carrierCapacity
        else node.carrierRecords)
      ((content.records.take node.room).reverse ++ node.receivedRecords) := by
    rw [heq]
    exact hstores
  constructor
  case settings | environment | counters => rw [heq]
  case pending =>
    rw [hnext.pending_eq, h.stores.pending_eq, List.length_append, List.length_reverse,
      List.length_take, Nat.min_comm, Nat.add_comm]
  case queued => exact hnext.receivedRecords_eq
  case served =>
    intro count
    rw [served_eq_take hnext, served_pending h.stores]
  case kept => exact takeIn_keeps h content
  case taken =>
    rintro ⟨rfl, hnone⟩
    obtain ⟨hcarrier, hrecords⟩ := takeIn_carries h content hnone
    refine ⟨node.takenHeader content, hcarrier, ?_⟩
    rw [hrecords]
    exact node.cutTo_takenHeader content

/-- An extraction that yields a content has read it from the frame and taken it in. -/
theorem takeIn_of_extract (h : node.Invariant) {frame left : Frame} {destinedHere : Bool}
    {content : TelemetryContent} {next : Node}
    (heq : node.extract frame destinedHere = (.ok (some content), next, left)) :
    (∃ found span, findTelemetry frame.data node.settings.subtype = .ok (some span) ∧
      TelemetryContent.decode node.settings.layout span.content = .ok found ∧
        content = found.fillChannels node.environment.channel.toNat ∧
          content.header.encode <+: span.content) ∧
      next = node.takeIn content destinedHere := by
  obtain ⟨result, reached, rest, hextract, hextraction⟩ := extract_spec h frame destinedHere
  rw [heq] at hextract
  cases hextract
  cases hextraction with
  | @stripped found _ _ _ _ hread =>
    obtain ⟨span, hspan, hdecode⟩ := exists_span_of_readTelemetry hread
    have hheader := TelemetryContent.encode_header_isPrefix hdecode
    exact ⟨⟨found, span, hspan, hdecode, rfl, hheader⟩, rfl⟩

theorem extract_of_receiveFrame {frame left : Frame} {destinedHere : Bool}
    {content : TelemetryContent} {next : Node}
    (heq : node.receiveFrame frame destinedHere = (some content, next, left)) :
    (node.capture frame.wire).extract frame destinedHere = (.ok (some content), next, left) := by
  obtain ⟨result, reached, rest, hextract⟩ : ∃ result reached rest,
      (node.capture frame.wire).extract frame destinedHere = (result, reached, rest) :=
    ⟨_, _, _, rfl⟩
  rw [receiveFrame, hextract] at heq
  rw [hextract]
  cases result with
  | error err => cases heq
  | ok content? =>
    cases heq
    rfl

/-- **Reception when the pools run full.** A content that a frame brings is queued for the application
as far as there is room, to be served in reverse, and each record beyond the room is counted. A node
that is the destination or has a carrier keeps what it carries. Any other node takes over the first
records, as many as its pool can hold, under the received header, marked if some were left out. The
content that the caller gets has the header as it stands in the frame. -/
theorem reception_of_content {next : Node} {frame left : Frame} {destinedHere : Bool}
    {content : TelemetryContent} (hnode : node.Reachable)
    (hreceived : node.extract frame destinedHere = (.ok (some content), next, left) ∨
      node.receiveFrame frame destinedHere = (some content, next, left)) :
    (∃ found span, findTelemetry frame.data node.settings.subtype = .ok (some span) ∧
      TelemetryContent.decode node.settings.layout span.content = .ok found ∧
        content = found.fillChannels node.environment.channel.toNat ∧
          content.header.encode <+: span.content) ∧
      node.Reception content destinedHere next := by
  have hinvariant := hnode.invariant
  rcases hreceived with hextract | hframe
  · obtain ⟨hread, rfl⟩ := takeIn_of_extract hinvariant hextract
    exact ⟨hread, reception_takeIn hinvariant content destinedHere⟩
  · -- The capture before the extraction touches neither the pools nor the carrier.
    have hcaptured := hinvariant.capture frame.wire
    obtain ⟨hread, rfl⟩ := takeIn_of_extract hcaptured (extract_of_receiveFrame hframe)
    have hreception := reception_takeIn hcaptured content destinedHere
    refine ⟨hread, { hreception with served := ?_ }⟩
    intro count
    rw [hreception.served, served_pending hcaptured.stores, served_pending hinvariant.stores]
    rfl

/-- Nodes 10 and 11 have reported. -/
def twoReports : Frame :=
  .incoming .data [] true
    [0x00, 0x3F, 0x0E, 0xA8, 0x2A, 0xA0, 0x02, 0xFF, 0x0A, 0x00, 0x00, 0x01, 0xC4,
      0x0B, 0x00, 0x00, 0x01, 0xC4, 0x00, 0xF8, 0x07]

/-- A node whose pools hold three received records and one carried record, with two records in the
first pool. -/
def nearlyFull : Node :=
  let node : Node :=
    { settings := { consumptionCapacity := 3, carrierCapacity := 1 }
      environment := { nodeId := 1 }
      store := .ofCapacities 1 3 }
  node.perform (.receiveFrame twoReports true)

/-- The same reports come again, in a frame that travels on. One of the two records finds room in
either pool, so that two refusals are counted. -/
theorem reception_of_content_nearlyFull :
    nearlyFull.Reachable ∧ nearlyFull.pending = 2 ∧
      ∃ content next left, nearlyFull.receiveFrame twoReports false = (some content, next, left) ∧
        nearlyFull.Reception content false next ∧
          next.served 3 = [.sample ⟨10, 0, 256, -60⟩, .sample ⟨11, 0, 256, -60⟩,
            .sample ⟨10, 0, 256, -60⟩] ∧
          next.counters.poolExhaustions = 2 ∧
            content.header = ⟨0x2A, ⟨0xA0⟩, 2, 0xFF⟩ ∧
              ∃ header, next.carrier = some header ∧ header.isOverflowed = true ∧
                next.carrierRecords = [.sample ⟨10, 0, 256, -60⟩] := by
  have hstart : Node.start { consumptionCapacity := 3, carrierCapacity := 1 } { nodeId := 1 }
      = .ok { settings := { consumptionCapacity := 3, carrierCapacity := 1 }
              environment := { nodeId := 1 }
              store := .ofCapacities 1 3 } := rfl
  have hnode : nearlyFull.Reachable := .perform (.receiveFrame twoReports true) (.start hstart)
  have hcapacity : nearlyFull.settings.carrierCapacity = 1 := by decide +kernel
  have hpending : nearlyFull.pending = 2 := by decide +kernel
  have hcontent : (nearlyFull.receiveFrame twoReports false).1
      = some ⟨⟨0x2A, ⟨0xA0⟩, 2, 0xFF⟩, [.sample ⟨10, 0, 256, -60⟩, .sample ⟨11, 0, 256, -60⟩]⟩ := by
    decide +kernel
  have htakes : nearlyFull.TakesOver false := ⟨rfl, by decide +kernel⟩
  obtain ⟨_, hreception⟩ := reception_of_content hnode (.inr (Prod.ext hcontent rfl))
  obtain ⟨header, hheader, hcut⟩ := hreception.taken htakes
  refine ⟨hnode, hpending, _, _, _, Prod.ext hcontent rfl, hreception, ?_, ?_, rfl, header, hheader,
    ?_, ?_⟩
  · rw [hreception.served]
    decide +kernel
  · rw [hreception.counters]
    decide +kernel
  · rw [hcapacity] at hcut
    exact hcut.isOverflowed_iff.mpr (.inr (by decide))
  · rw [hcapacity] at hcut
    exact hcut.records

end Node

end MeshTelemetry
