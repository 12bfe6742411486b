import MeshTelemetry.Node.Carriage
import MeshTelemetry.Proofs.Frame
import MeshTelemetry.Proofs.Node.Invariant
import MeshTelemetry.Proofs.Telemetry.Content

/-!
# What leaves and what arrives

An embedding frees the carrier whether it succeeds or not, and if it succeeds, the frame has grown by
the elements around the content. A received content goes two ways: to the application as far as its
pool has room, and on into the carrier queue of a node that has none. Both lists take a prefix of the
records, so no record is taken before one that was ahead of it.
-/

namespace MeshTelemetry

/-- The elements around a content, in the order of the wire. -/
def TelemetryContent.elements (content : TelemetryContent) : Bytes :=
  headerTermination ++
    bytesLE descriptorSize (payloadBit + ietfGroup.val * 0x800 + content.encodedLength) ++
      content.encode ++ payloadTermination

theorem TelemetryContent.elements_length (content : TelemetryContent) :
    content.elements.length = minElementOverhead + content.encodedLength := by
  simp only [elements, List.length_append, bytesLE_length, content.encode_length,
    headerTermination, payloadTermination, minElementOverhead, descriptorSize, List.length_cons,
    List.length_nil]
  omega

/-- An element that can count the content takes its own length of the room, or there is too little. -/
theorem Frame.embed_of_countable {frame : Frame} {content : TelemetryContent}
    (hfits : content.encodedLength ≤ maxPayloadContent) :
    frame.embed content
      = match frame.allocHeader? content.elements.length with
        | none => .error (.headerAllocation content.elements.length)
        | some (_, raised) =>
          .ok (content.elements.length, raised.writeHeader content.elements) := by
  have htotal : headerTermination.length
        + (bytesLE descriptorSize (payloadBit + ietfGroup.val * 0x800
            + content.encodedLength)).length
        + content.encodedLength + payloadTermination.length = content.elements.length := by
    simp only [TelemetryContent.elements, List.length_append, content.encode_length]
  rw [embed, ietfDescriptor, if_neg (Nat.not_lt.mpr hfits), ok_bind]
  simp only [htotal]
  rfl

/-- An embedding succeeds if the element can count the content and the room holds the elements. -/
theorem Frame.embed_eq_ok_iff {frame grown : Frame} {content : TelemetryContent} {written : Nat} :
    frame.embed content = .ok (written, grown) ↔
      content.encodedLength ≤ maxPayloadContent ∧ written = content.elements.length ∧
        ∃ region raised, frame.allocHeader? content.elements.length = some (region, raised) ∧
          grown = raised.writeHeader content.elements := by
  by_cases hfits : content.encodedLength ≤ maxPayloadContent
  · rw [embed_of_countable hfits]
    cases halloc : frame.allocHeader? content.elements.length with
    | none =>
      constructor
      · intro h
        cases h
      · rintro ⟨_, _, _, _, hsome, _⟩
        cases hsome
    | some allocated =>
      obtain ⟨region, raised⟩ := allocated
      constructor
      · intro h
        cases h
        exact ⟨hfits, rfl, region, raised, rfl, rfl⟩
      · rintro ⟨_, rfl, _, _, hsome, rfl⟩
        cases hsome
        rfl
  · rw [embed, ietfDescriptor, if_pos (Nat.lt_of_not_le hfits)]
    constructor
    · intro h
      cases h
    · rintro ⟨hle, _⟩
      exact absurd hle hfits

namespace Node

variable {node : Node}

/-- An embedding frees the carrier, and it leaves the frame alone if it fails. -/
theorem embed_spec (h : node.Invariant) {header : TelemetryHeader}
    (hheader : node.carrier = some header) (frame : Frame) :
    ∃ result next grown, node.embed frame = (result, next, grown) ∧ node.Becomes next none [] ∧
      ((∃ written raised, frame.embed ⟨header, node.carrierRecords⟩ = .ok (written, raised) ∧
          result = .ok written ∧ grown = raised.setHasElements true) ∨
        ∃ err, frame.embed ⟨header, node.carrierRecords⟩ = .error err ∧ result = .error err ∧
          grown = frame) := by
  obtain ⟨store, hdrain, hstores⟩ := h.stores.drainCarrier
  unfold embed
  rw [hheader]
  simp only [hdrain]
  cases hembed : frame.embed ⟨header, node.carrierRecords⟩ with
  | ok embedded =>
    obtain ⟨written, raised⟩ := embedded
    exact ⟨_, _, _, rfl, ⟨rfl, ⟨_, rfl⟩, rfl, hstores⟩, .inl ⟨written, raised, rfl, rfl, rfl⟩⟩
  | error err =>
    exact ⟨_, _, _, rfl, ⟨rfl, ⟨_, rfl⟩, rfl, hstores⟩, .inr ⟨err, rfl, rfl, rfl⟩⟩

theorem Invariant.embed (h : node.Invariant) (frame : Frame) :
    (node.embed frame).2.1.Invariant := by
  cases hcarrier : node.carrier with
  | none =>
    unfold Node.embed
    rw [hcarrier]
    exact h
  | some header =>
    obtain ⟨_, next, _, heq, hnext, _⟩ := embed_spec h hcarrier frame
    rw [heq]
    exact hnext.invariant h .none

theorem receiveRecord_eq {carried received : List Record} (h : node.Stores carried received)
    (record : Record) :
    ∃ store, node.receiveRecord record
        = { node with
            store := store
            counters.poolExhaustions := node.counters.poolExhaustions
              + if received.length < node.settings.consumptionCapacity then 0 else 1 } ∧
      store.Holds node.settings.carrierCapacity node.settings.consumptionCapacity carried
        (if received.length < node.settings.consumptionCapacity then record :: received
          else received) := by
  unfold receiveRecord
  by_cases hroom : received.length < node.settings.consumptionCapacity
  · obtain ⟨store, hpush, hstores⟩ := h.pushConsumption record hroom
    rw [hpush, if_pos hroom, if_pos hroom]
    exact ⟨store, rfl, hstores⟩
  · have hle := h.consumption.length_le
    rw [h.pushConsumption_full record (by omega), if_neg hroom, if_neg hroom]
    exact ⟨node.store, rfl, h⟩

/-- Each record beyond the room is refused and counted. -/
theorem foldl_receiveRecord_eq {carried received : List Record}
    (h : node.Stores carried received) (records : List Record) :
    ∃ store, records.foldl receiveRecord node
        = { node with
            store := store
            counters.poolExhaustions := node.counters.poolExhaustions
              + (records.length - (node.settings.consumptionCapacity - received.length)) } ∧
      store.Holds node.settings.carrierCapacity node.settings.consumptionCapacity carried
        ((records.take (node.settings.consumptionCapacity - received.length)).reverse
          ++ received) := by
  induction records generalizing node received with
  | nil =>
    refine ⟨node.store, ?_, by simpa [Stores] using h⟩
    rw [List.foldl_nil, List.length_nil, Nat.zero_sub, Nat.add_zero]
  | cons record records ih =>
    obtain ⟨store, heq, hstores⟩ := receiveRecord_eq h record
    obtain ⟨final, hfold, hfinal⟩ := @ih { node with
      store := store
      counters.poolExhaustions := node.counters.poolExhaustions
        + if received.length < node.settings.consumptionCapacity then 0 else 1 } _ hstores
    refine ⟨final, ?_, ?_⟩
    · have hcount : (if received.length < node.settings.consumptionCapacity then 0 else 1)
            + (records.length - (node.settings.consumptionCapacity
              - (if received.length < node.settings.consumptionCapacity then record :: received
                  else received).length))
          = (record :: records).length
            - (node.settings.consumptionCapacity - received.length) := by
        split
        · rw [List.length_cons, List.length_cons]
          omega
        · rw [List.length_cons]
          omega
      rw [List.foldl_cons, heq, hfold, ← hcount]
      simp only [Nat.add_assoc]
    · by_cases hroom : received.length < node.settings.consumptionCapacity
      · have htake : node.settings.consumptionCapacity - received.length
            = node.settings.consumptionCapacity - (received.length + 1) + 1 := by omega
        rw [htake, List.take_succ_cons, List.reverse_cons, List.append_assoc]
        simpa [hroom] using hfinal
      · have hnone : node.settings.consumptionCapacity - received.length = 0 := by omega
        simpa [hroom, hnone] using hfinal

/-- The application gets the first records that its pool has room for, the last of them on top. -/
theorem receiveRecords_eq {carried received : List Record} (h : node.Stores carried received)
    (records : List Record) :
    ∃ store, node.receiveRecords records
        = { node with
            store := store
            counters.recordsReceived := node.counters.recordsReceived + records.length
            counters.poolExhaustions := node.counters.poolExhaustions
              + (records.length - (node.settings.consumptionCapacity - received.length)) } ∧
      store.Holds node.settings.carrierCapacity node.settings.consumptionCapacity carried
        ((records.take (node.settings.consumptionCapacity - received.length)).reverse
          ++ received) :=
  @foldl_receiveRecord_eq { node with
    counters.recordsReceived := node.counters.recordsReceived + records.length } _ _ h records

/-- The queue takes the first records that it has room for, and refuses the next. -/
theorem queueRecords_spec {store : RecordStore} {carrierCapacity consumptionCapacity : Nat}
    {carried received : List Record}
    (h : store.Holds carrierCapacity consumptionCapacity carried received)
    (records : List Record) :
    ∃ next, queueRecords store records
        = (decide (carrierCapacity - carried.length < records.length), next) ∧
      next.Holds carrierCapacity consumptionCapacity
        (carried ++ records.take (carrierCapacity - carried.length)) received := by
  induction records generalizing store carried with
  | nil => exact ⟨store, by simp [queueRecords], by simpa using h⟩
  | cons record records ih =>
    have hle := h.carrier.length_le
    rw [queueRecords]
    by_cases hroom : carried.length < carrierCapacity
    · obtain ⟨next, hpush, hnext⟩ := h.pushCarrier record hroom
      obtain ⟨final, hqueue, hfinal⟩ := ih hnext
      have htake : carrierCapacity - carried.length
          = carrierCapacity - (carried ++ [record]).length + 1 := by
        rw [List.length_append, List.length_singleton]
        omega
      refine ⟨final, ?_, ?_⟩
      · simp only [hpush, hqueue, htake, List.length_cons, Nat.add_lt_add_iff_right]
      · rw [htake, List.take_succ_cons]
        simpa using hfinal
    · have hfull : carried.length = carrierCapacity := by omega
      have hnone : carrierCapacity - carried.length = 0 := by omega
      refine ⟨store, ?_, ?_⟩
      · simp [h.pushCarrier_full record hfull, hnone]
      · simpa [hnone] using h

/-- The header of a content that was taken over: marked if not all of its records found room. -/
def takenHeader (node : Node) (content : TelemetryContent) : TelemetryHeader :=
  if node.settings.carrierCapacity < content.records.length && !content.header.isOverflowed then
    content.header.setOverflowed
  else content.header

theorem takenHeader_subtype (node : Node) (content : TelemetryContent) :
    (node.takenHeader content).subtype = content.header.subtype := by
  unfold takenHeader
  split <;> rfl

theorem carry_eq {received : List Record} (hnone : node.carrier = none)
    (h : node.Stores [] received) (content : TelemetryContent) :
    ∃ store, node.carry content
        = { node with
            store := store
            carrier := some (node.takenHeader content)
            counters.carriersReceived := node.counters.carriersReceived + 1
            counters.poolExhaustions := node.counters.poolExhaustions
              + if node.settings.carrierCapacity < content.records.length then 1 else 0
            counters.overflowEvents := node.counters.overflowEvents
              + if node.settings.carrierCapacity < content.records.length
                  ∧ content.header.isOverflowed = false then 1 else 0 } ∧
      store.Holds node.settings.carrierCapacity node.settings.consumptionCapacity
        (content.records.take node.settings.carrierCapacity) received := by
  obtain ⟨store, hqueue, hstores⟩ := queueRecords_spec h content.records
  rw [List.length_nil, Nat.sub_zero] at hqueue
  refine ⟨store, ?_, hstores⟩
  rw [carry, hnone, if_neg (by simp), hqueue]
  simp only [takenHeader, Bool.and_eq_true, decide_eq_true_eq, Bool.not_eq_true']

theorem carry_of_carrier {content : TelemetryContent} (hcarrier : node.carrier ≠ none) :
    node.carry content = node := by
  rw [carry, if_pos (Option.isSome_iff_ne_none.mpr hcarrier)]

theorem Invariant.receiveRecords (h : node.Invariant) {records : List Record}
    (hlayout : ∀ record ∈ records, record.hasLayout node.settings.layout = true) :
    (node.receiveRecords records).Invariant := by
  obtain ⟨store, heq, hstores⟩ := receiveRecords_eq h.stores records
  rw [heq]
  refine .of_stores h.usable hstores h.mayCarry fun record hmem => ?_
  rcases List.mem_append.mp hmem with hmem | hmem
  · exact hlayout record (List.mem_of_mem_take (List.mem_reverse.mp hmem))
  · exact h.received_layout record hmem

theorem Invariant.carry (h : node.Invariant) {content : TelemetryContent}
    (hsubtype : content.header.subtype = node.settings.subtype)
    (hlayout : ∀ record ∈ content.records, record.hasLayout node.settings.layout = true) :
    (node.carry content).Invariant := by
  by_cases hcarrier : node.carrier = none
  · have hstores := h.stores
    rw [h.mayCarry.no_records hcarrier] at hstores
    obtain ⟨store, heq, hnext⟩ := carry_eq hcarrier hstores content
    rw [heq]
    refine .of_stores h.usable hnext (.some ?_ ?_) h.received_layout
    · rw [takenHeader_subtype, hsubtype]
    · exact fun record hmem => hlayout record (List.mem_of_mem_take hmem)
  · rw [carry_of_carrier hcarrier]
    exact h

/-- The first records go to the application, and nothing else of the node changes. -/
theorem receiveRecords_keeps (h : node.Invariant) (records : List Record) :
    ∃ received,
      (node.receiveRecords records).settings = node.settings ∧
        (node.receiveRecords records).environment = node.environment ∧
          (node.receiveRecords records).carrier = node.carrier ∧
            (node.receiveRecords records).Stores node.carrierRecords received := by
  obtain ⟨store, heq, hstores⟩ := receiveRecords_eq h.stores records
  rw [heq]
  exact ⟨_, rfl, rfl, rfl, hstores⟩

theorem Invariant.extract (h : node.Invariant) (frame : Frame) (destinedHere : Bool) :
    (node.extract frame destinedHere).2.1.Invariant := by
  unfold Node.extract
  split
  · exact h
  · split
    · exact h.withCounters _
    · exact h
    · rename_i found listLength hread
      obtain ⟨hsubtype, hfound⟩ := content_of_readTelemetry hread
      have hlayout := found.hasLayout_fillChannels hfound node.environment.channel.toNat
      have hreceived := h.receiveRecords hlayout
      cases destinedHere with
      | true => exact hreceived
      | false =>
        obtain ⟨_, hsettings, _⟩ := receiveRecords_keeps h
          (found.fillChannels node.environment.channel.toNat).records
        rw [← hsettings] at hsubtype hlayout
        exact hreceived.carry hsubtype hlayout

end Node

end MeshTelemetry
