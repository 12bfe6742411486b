import MeshTelemetry.Proofs.Node.Reachable
import MeshTelemetry.Proofs.Telemetry.Reading

/-!
# All or nothing

An extraction either leaves the node and the frame alone, but for the count of malformed frames, or
it does everything: the list of elements leaves the data, the announcement is withdrawn, and the
content reaches the node. The consumption of the list cannot be refused, since the list that was read
lies within the data. A frame that was stripped announces nothing, so no content is taken in twice.
One equation tells what both pools hold once a content is in, and what has been counted.
-/

namespace MeshTelemetry

namespace Node

/-- The node after it has taken a content in: the records wait for the application, and on a frame
that travels on they also become the carrier, unless the node has one. -/
def takeIn (node : Node) (content : TelemetryContent) (destinedHere : Bool) : Node :=
  if destinedHere then node.receiveRecords content.records
  else (node.receiveRecords content.records).carry content

/-- The number of records that the application's pool has room for. -/
def room (node : Node) : Nat := node.settings.consumptionCapacity - node.pending

/-- A content becomes the node's carrier. -/
def TakesOver (node : Node) (destinedHere : Bool) : Prop :=
  destinedHere = false ∧ node.carrier = none
  deriving Decidable

theorem not_takesOver_iff {node : Node} {destinedHere : Bool} :
    ¬ node.TakesOver destinedHere ↔ destinedHere = true ∨ node.carrier ≠ none := by
  rw [TakesOver, Decidable.not_and_iff_or_not, Bool.not_eq_false]

/-- The counters after the application's pool has been offered the records. -/
def countersQueued (node : Node) (records : List Record) : Counters :=
  { node.counters with
    recordsReceived := node.counters.recordsReceived + records.length
    poolExhaustions := node.counters.poolExhaustions + (records.length - node.room) }

/-- The counters after a content has come in. -/
def countersAfter (node : Node) (content : TelemetryContent) (destinedHere : Bool) : Counters :=
  if node.TakesOver destinedHere then
    { node.countersQueued content.records with
      carriersReceived := node.counters.carriersReceived + 1
      poolExhaustions := (node.countersQueued content.records).poolExhaustions
        + if node.settings.carrierCapacity < content.records.length then 1 else 0
      overflowEvents := node.counters.overflowEvents
        + if node.settings.carrierCapacity < content.records.length
            ∧ content.header.isOverflowed = false then 1 else 0 }
  else node.countersQueued content.records

section

variable {node : Node} {frame : Frame}

theorem extract_unannounced (node : Node) (hflag : frame.hasElements = false)
    (destinedHere : Bool) : node.extract frame destinedHere = (.ok none, node, frame) := by
  rw [extract, hflag]
  rfl

theorem extract_of_error {err : TelemetryError} (hflag : frame.hasElements = true)
    (hread : readTelemetry node.settings frame.data = .error err) (destinedHere : Bool) :
    node.extract frame destinedHere
      = (.error err,
          { node with counters.malformedFrames := node.counters.malformedFrames + 1 }, frame) := by
  rw [extract, hflag]
  simp only [hread]
  rfl

theorem extract_of_nothing (hflag : frame.hasElements = true)
    (hread : readTelemetry node.settings frame.data = .ok none) (destinedHere : Bool) :
    node.extract frame destinedHere = (.ok none, node, frame) := by
  rw [extract, hflag]
  simp only [hread]
  rfl

/-- The list that was read is stripped, and its content is taken in. -/
theorem extract_of_content {found : TelemetryContent} {list rest : Bytes}
    (hflag : frame.hasElements = true) (hdata : frame.data = list ++ rest)
    (hread : readTelemetry node.settings frame.data = .ok (some (found, list.length)))
    (destinedHere : Bool) :
    node.extract frame destinedHere
      = (.ok (some (found.fillChannels node.environment.channel.toNat)),
          node.takeIn (found.fillChannels node.environment.channel.toNat) destinedHere,
          { frame with dataStart := frame.dataStart + list.length, hasElements := false }) := by
  have hwithin : list.length ≤ frame.data.length := by
    rw [hdata, List.length_append]
    exact Nat.le_add_right _ _
  rw [extract, hflag]
  simp only [hread, Frame.consume?_of_le hwithin]
  rfl

end

theorem Stores.pending_eq {node : Node} {carried received : List Record}
    (h : node.Stores carried received) : node.pending = received.length :=
  RecordStore.Holds.consumptionLength_eq h

section

variable {node : Node} (h : node.Invariant) (content : TelemetryContent) {destinedHere : Bool}

include h

theorem takeIn_of_not_takesOver (hkept : ¬ node.TakesOver destinedHere) :
    node.takeIn content destinedHere = node.receiveRecords content.records := by
  obtain ⟨received, _, _, hcarrier, _⟩ := receiveRecords_keeps h content.records
  cases destinedHere with
  | true => rfl
  | false =>
    have hsome : node.carrier ≠ none := fun hnone => hkept ⟨rfl, hnone⟩
    rw [takeIn, if_neg Bool.false_ne_true, carry_of_carrier (hcarrier.trans_ne hsome)]

/-- Both pools after a content has come in, and all that has been counted. -/
theorem takeIn_eq (destinedHere : Bool) :
    ∃ store, node.takeIn content destinedHere
        = { node with
            store := store
            carrier := if node.TakesOver destinedHere then some (node.takenHeader content)
              else node.carrier
            counters := node.countersAfter content destinedHere } ∧
      store.Holds node.settings.carrierCapacity node.settings.consumptionCapacity
        (if node.TakesOver destinedHere then content.records.take node.settings.carrierCapacity
          else node.carrierRecords)
        ((content.records.take node.room).reverse ++ node.receivedRecords) := by
  obtain ⟨queued, hreceive, hqueued⟩ := receiveRecords_eq h.stores content.records
  rw [← h.stores.pending_eq, ← room] at hreceive hqueued
  by_cases htakes : node.TakesOver destinedHere
  · have hnone : node.carrier = none := htakes.2
    obtain rfl : destinedHere = false := htakes.1
    -- No records without a carrier: the pool that takes the content over is empty.
    rw [h.mayCarry.no_records hnone] at hqueued
    have hready : (node.receiveRecords content.records).Stores []
        ((content.records.take node.room).reverse ++ node.receivedRecords) := by
      rw [hreceive]
      exact hqueued
    have hcarrier : (node.receiveRecords content.records).carrier = none := by
      rw [hreceive]
      exact hnone
    obtain ⟨store, hcarry, hstores⟩ := carry_eq hcarrier hready content
    refine ⟨store, ?_, ?_⟩
    · rw [takeIn, if_neg Bool.false_ne_true, countersAfter, if_pos htakes, if_pos htakes, hcarry,
        hreceive]
      rfl
    · rw [if_pos htakes]
      rw [hreceive] at hstores
      exact hstores
  · refine ⟨queued, ?_, ?_⟩
    · rw [takeIn_of_not_takesOver h content htakes, hreceive, countersAfter, if_neg htakes,
        if_neg htakes]
      rfl
    · rw [if_neg htakes]
      exact hqueued

theorem takeIn_settings (destinedHere : Bool) :
    (node.takeIn content destinedHere).settings = node.settings ∧
      (node.takeIn content destinedHere).environment = node.environment := by
  obtain ⟨store, heq, _⟩ := takeIn_eq h content destinedHere
  rw [heq]
  exact ⟨rfl, rfl⟩

/-- A node that is the destination, or that has a carrier, goes on with what it carries. -/
theorem takeIn_keeps (hkept : ¬ node.TakesOver destinedHere) :
    (node.takeIn content destinedHere).carrier = node.carrier ∧
      (node.takeIn content destinedHere).carrierRecords = node.carrierRecords := by
  obtain ⟨store, heq, hstores⟩ := takeIn_eq h content destinedHere
  rw [if_neg hkept] at heq hstores
  rw [heq]
  exact ⟨rfl, hstores.carrierRecords_eq⟩

/-- A node without a carrier takes over the content of a frame that travels on. -/
theorem takeIn_carries (hnone : node.carrier = none) :
    (node.takeIn content false).carrier = some (node.takenHeader content) ∧
      (node.takeIn content false).carrierRecords
        = content.records.take node.settings.carrierCapacity := by
  have htakes : node.TakesOver false := ⟨rfl, hnone⟩
  obtain ⟨store, heq, hstores⟩ := takeIn_eq h content false
  rw [if_pos htakes] at heq hstores
  rw [heq]
  exact ⟨rfl, hstores.carrierRecords_eq⟩

end

/-- What an extraction can do. -/
inductive Extraction (node : Node) (frame : Frame) (destinedHere : Bool) :
    Except TelemetryError (Option TelemetryContent) → Node → Frame → Prop where
  | nothing :
      (frame.hasElements = true → readTelemetry node.settings frame.data = .ok none) →
      Extraction node frame destinedHere (.ok none) node frame
  | malformed {err : TelemetryError} :
      frame.hasElements = true → readTelemetry node.settings frame.data = .error err →
      Extraction node frame destinedHere (.error err)
        { node with counters.malformedFrames := node.counters.malformedFrames + 1 } frame
  | stripped {found : TelemetryContent} {encoded list rest : Bytes} :
      frame.hasElements = true →
      readTelemetry node.settings frame.data = .ok (some (found, list.length)) →
      frame.data = list ++ rest → ListsTelemetry node.settings.subtype encoded list rest →
      Extraction node frame destinedHere
        (.ok (some (found.fillChannels node.environment.channel.toNat)))
        (node.takeIn (found.fillChannels node.environment.channel.toNat) destinedHere)
        { frame with dataStart := frame.dataStart + list.length, hasElements := false }

theorem extract_spec {node : Node} (h : node.Invariant) (frame : Frame) (destinedHere : Bool) :
    ∃ result next left, node.extract frame destinedHere = (result, next, left) ∧
      Extraction node frame destinedHere result next left := by
  cases hflag : frame.hasElements with
  | false =>
    have hnothing := @Extraction.nothing node frame destinedHere (by simp [hflag])
    exact ⟨_, _, _, extract_unannounced node hflag destinedHere, hnothing⟩
  | true =>
    rcases readTelemetry_cases h.usable.recordSize_pos frame.data with
      ⟨err, _, hread⟩ | hread | ⟨encoded, list, rest, found, hlists, hdata, _, hread⟩
    · exact ⟨_, _, _, extract_of_error hflag hread destinedHere, .malformed hflag hread⟩
    · exact ⟨_, _, _, extract_of_nothing hflag hread destinedHere, .nothing fun _ => hread⟩
    · exact ⟨_, _, _, extract_of_content hflag hdata hread destinedHere,
        .stripped hflag hread hdata hlists⟩

section

variable {node next : Node} {frame left : Frame} {destinedHere : Bool}
  {result : Except TelemetryError (Option TelemetryContent)}

/-- An extraction fails on what cannot be read, if it is announced, and on nothing else. -/
theorem Extraction.eq_error_iff (h : Extraction node frame destinedHere result next left)
    {err : TelemetryError} :
    result = .error err ↔
      frame.hasElements = true ∧ readTelemetry node.settings frame.data = .error err := by
  constructor
  · rintro rfl
    cases h with
    | malformed hflag hread => exact ⟨hflag, hread⟩
  · rintro ⟨hflag, herror⟩
    cases h with
    | nothing hnone =>
      rw [hnone hflag] at herror
      cases herror
    | malformed _ hread =>
      rw [hread] at herror
      cases herror
      rfl
    | stripped _ hread =>
      rw [hread] at herror
      cases herror

/-- Whatever a frame brings, a node that has a carrier goes on with it as it is. -/
theorem extract_keeps (h : node.Invariant) (frame : Frame)
    (hkept : destinedHere = true ∨ node.carrier ≠ none) :
    (node.extract frame destinedHere).2.1.carrier = node.carrier ∧
      (node.extract frame destinedHere).2.1.carrierRecords = node.carrierRecords := by
  obtain ⟨result, next, left, heq, hextraction⟩ := extract_spec h frame destinedHere
  rw [heq]
  cases hextraction with
  | nothing | malformed => exact ⟨rfl, rfl⟩
  | stripped => exact takeIn_keeps h _ (not_takesOver_iff.mpr hkept)

end

/-- **All or nothing.** An extraction fails exactly if the frame announces elements and these are
undecodable. When it fails or finds nothing, only the count of malformed frames can have changed.
When it yields a content, the frame has lost exactly the list of elements that held it, and nothing
more can be extracted from it. -/
theorem extract_all_or_nothing {node : Node} (hnode : node.Reachable) (frame : Frame)
    (destinedHere : Bool) :
    ∃ result next left, node.extract frame destinedHere = (result, next, left) ∧
      (∀ err, result = .error err ↔
        frame.hasElements = true ∧ Undecodable node.settings.subtype frame.data err) ∧
      (∀ err, result = .error err →
        (∃ offset fault, err = .malformedElement offset fault) ∧ left = frame ∧
          next = { node with counters.malformedFrames := node.counters.malformedFrames + 1 }) ∧
      (result = .ok none → left = frame ∧ next = node) ∧
      ∀ content, result = .ok (some content) →
        ∃ span list, findTelemetry frame.data node.settings.subtype = .ok (some span) ∧
          ListsTelemetry node.settings.subtype span.content list left.data ∧
            list.length = span.listLength ∧ frame.data = list ++ left.data ∧
              left = { frame with
                dataStart := frame.dataStart + list.length
                hasElements := false } ∧
                ∀ (later : Node) (again : Bool),
                  later.extract left again = (.ok none, later, left) := by
  obtain ⟨result, next, left, heq, hextraction⟩ := extract_spec hnode.invariant frame destinedHere
  have hsize := hnode.invariant.usable.recordSize_pos
  refine ⟨result, next, left, heq, ?_, ?_, ?_, ?_⟩
  · intro err
    rw [← readTelemetry_eq_error_iff hsize]
    exact hextraction.eq_error_iff
  · rintro err rfl
    cases hextraction with
    | malformed _ hread =>
      have hundecodable := (readTelemetry_eq_error_iff hsize).mp hread
      exact ⟨hundecodable.exists_malformedElement, rfl, rfl⟩
  · rintro rfl
    cases hextraction with
    | nothing => exact ⟨rfl, rfl⟩
  · rintro content rfl
    cases hextraction with
    | @stripped found encoded list rest _ _ hdata hlists =>
      have hleft := Frame.data_consumed hdata
      obtain ⟨span, hspan, rfl, hlength⟩ := hlists.exists_span
      refine ⟨span, list, ?_, ?_, hlength.symm, ?_, rfl, ?_⟩
      · rw [hdata]
        exact hspan
      · exact hleft.symm ▸ hlists
      · exact hdata.trans (congrArg (list ++ ·) hleft.symm)
      · intro later again
        exact extract_unannounced later rfl again

theorem extract_oneRecord :
    ∃ node content next left, Node.start {} { nodeId := 1 } = .ok node ∧
      node.extract
        (.incoming .data [] true
          [0x00, 0x3F, 0x09, 0xA8, 0x2A, 0xA0, 0x01, 0xFF, 0x0A, 0x00, 0x00, 0x01, 0xC4, 0x00, 0xF8,
            0x07])
        false = (.ok (some content), next, left) ∧
      left.data = [0x07] ∧ ∀ (later : Node) (again : Bool),
        later.extract left again = (.ok none, later, left) := by
  let node : Node :=
    { settings := {}
      environment := { nodeId := 1 }
      store := .ofCapacities 32 256 }
  let frame : Frame := .incoming .data [] true
    [0x00, 0x3F, 0x09, 0xA8, 0x2A, 0xA0, 0x01, 0xFF, 0x0A, 0x00, 0x00, 0x01, 0xC4, 0x00, 0xF8, 0x07]
  have hstart : Node.start {} { nodeId := 1 } = .ok node := rfl
  have hcontent : (node.extract frame false).1
      = .ok (some ⟨⟨0x2A, ⟨0xA0⟩, 1, 0xFF⟩, [.sample ⟨10, 0, 256, -60⟩]⟩) := by decide +kernel
  have hrest : (node.extract frame false).2.2.data = [0x07] := by decide +kernel
  obtain ⟨result, next, left, heq, _, _, _, hstripped⟩ :=
    extract_all_or_nothing (.start hstart) frame false
  rw [heq] at hcontent hrest
  simp only at hcontent hrest
  subst hcontent
  obtain ⟨_, _, _, _, _, _, _, honce⟩ := hstripped _ rfl
  exact ⟨node, _, next, left, hstart, heq, hrest, honce⟩

end Node

end MeshTelemetry
