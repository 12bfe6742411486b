import MeshTelemetry.Proofs.Node.FrameBudget
import MeshTelemetry.Proofs.Telemetry.RoundTrip

/-!
# One hop further

Where every node reports, a node extends the content that it received by one record as long as the
frame has room for it, and by the overflow mark after that. This needs all that a hop does in turn:
the content read is the one written, it is taken over whole, the budget decides by the room alone,
and the embedding that follows cannot fail.
-/

namespace MeshTelemetry

/-- The content after one more node. -/
def TelemetryContent.extended (content : TelemetryContent) (room : Nat) (record : Record) :
    TelemetryContent :=
  if content.header.isOverflowed then content
  else if content.records.length < room then
    ⟨{ content.header with sequence := content.header.sequence + 1 }, content.records ++ [record]⟩
  else ⟨content.header.setOverflowed, content.records⟩

theorem TelemetryContent.extended_records_length_le {content : TelemetryContent} {room : Nat}
    (h : content.records.length ≤ room) (record : Record) :
    (content.extended room record).records.length ≤ room := by
  unfold extended
  split
  · exact h
  · split
    · rw [List.length_append, List.length_singleton]
      omega
    · exact h

/-- Settings under which every selected node reports in frames of this length. -/
structure Settings.Reporting (settings : Settings) (frameLength : Nat) : Prop where
  sampling : settings.sampling = .deterministic
  limit : settings.frameBudget < maxLength
  header_fits : frameLength + settings.initCost ≤ settings.frameBudget
  room_le : (Budget.ofSettings settings).recordRoom frameLength ≤ settings.carrierCapacity

/-- A carrier within its capacity fits the length field of its element. -/
theorem Settings.Usable.encodedLength_le {settings : Settings} (h : settings.Usable)
    {content : TelemetryContent}
    (hlayout : ∀ record ∈ content.records, record.hasLayout settings.layout = true)
    (hcount : content.records.length ≤ settings.carrierCapacity) :
    content.encodedLength ≤ maxPayloadContent := by
  have hsize : content.records.length * settings.recordSize
      ≤ settings.carrierCapacity * settings.recordSize :=
    Nat.mul_le_mul_right _ hcount
  rw [TelemetryContent.encodedLength_of_layout hlayout]
  exact Nat.le_trans (Nat.add_le_add_left hsize _) h.content

theorem Frame.exists_embed {frame : Frame} {content : TelemetryContent}
    (hfits : content.encodedLength ≤ maxPayloadContent)
    (hroom : content.elements.length ≤ frame.room) :
    ∃ embedded, frame.embed content = .ok embedded := by
  have halloc := Frame.allocHeader?_eq_some_iff.mpr ⟨hroom, rfl, rfl⟩
  exact ⟨_, Frame.embed_eq_ok_iff.mpr ⟨hfits, rfl, _, _, halloc, rfl⟩⟩

namespace Node

section

variable {node : Node} {frameLength : Nat} {origin : TrafficOrigin} {outcome : AdmissionOutcome}
  {carrier : Option TelemetryHeader} {others : List Record} {record : Record}

theorem Admission.extended {header : TelemetryHeader} {carried : List Record}
    (h : Admission node origin header carried
      (node.budget.evaluate frameLength (some ⟨carried.length, header.isOverflowed⟩)) outcome
      carrier others)
    (husable : node.settings.Usable) (hreporting : node.settings.Reporting frameLength)
    (hcarried : carried.length ≤ node.budget.recordRoom frameLength)
    (hrecord : node.ownRecord? header.bitmap origin = some record) :
    ∃ after, carrier = some after ∧
      ⟨after, others⟩
        = TelemetryContent.extended ⟨header, carried⟩ (node.budget.recordRoom frameLength) record := by
  obtain ⟨slots, hdecision⟩ := @Budget.evaluate_of_le_recordRoom node.budget frameLength
    hreporting.limit husable.recordSize_pos hreporting.header_fits
    ⟨carried.length, header.isOverflowed⟩ hcarried
  rw [hdecision] at h
  unfold TelemetryContent.extended
  by_cases hoverflowed : header.isOverflowed = true
  · simp only [if_pos hoverflowed] at h ⊢
    cases h
    exact ⟨header, rfl, rfl⟩
  · by_cases hroom : carried.length < node.budget.recordRoom frameLength
    · simp only [if_neg hoverflowed, if_pos hroom] at h ⊢
      cases h with
      | sampledOut _ hsampling =>
        rw [hreporting.sampling] at hsampling
        cases hsampling
      | notSelected _ hnone =>
        rw [hrecord] at hnone
        cases hnone
      | poolExhausted _ hfull =>
        have hle : node.budget.recordRoom frameLength ≤ node.settings.carrierCapacity :=
          hreporting.room_le
        omega
      | admitted _ hsome =>
        rw [hrecord] at hsome
        cases hsome
        exact ⟨_, rfl, rfl⟩
    · simp only [if_neg hoverflowed, if_neg hroom] at h ⊢
      cases h
      exact ⟨_, rfl, rfl⟩

/-- The budget extends the content in hand, or a fresh one. -/
theorem Budgeted.extended (h : Budgeted node frameLength origin outcome carrier others)
    (husable : node.settings.Usable) (hreporting : node.settings.Reporting frameLength)
    (hcarried : (node.contentFor origin).records.length ≤ node.budget.recordRoom frameLength)
    (hrecord : node.ownRecord? (node.contentFor origin).header.bitmap origin = some record) :
    ∃ after, carrier = some after ∧
      ⟨after, others⟩
        = (node.contentFor origin).extended (node.budget.recordRoom frameLength) record := by
  rcases h.skipped_or_admission with ⟨_, _, _, hskip⟩ | hadmission
  · have hshort := Budget.lt_of_evaluate_none_skip hskip
    exact absurd hreporting.header_fits (Nat.not_le.mpr hshort)
  · exact hadmission.extended husable hreporting hcarried hrecord

end

/-- A carrier that fits the budget also fits the room and the element's length field. -/
theorem exists_embed_of_fits {node : Node} (husable : node.settings.Usable) {frame : Frame}
    {header : TelemetryHeader} {carried : List Record}
    (hcarry : node.settings.MayCarry (some header) carried)
    (hcount : carried.length ≤ node.settings.carrierCapacity)
    (hfits : frame.length + node.budget.telemetryCost carried.length ≤ node.settings.frameBudget)
    (hroom : node.settings.frameBudget ≤ frame.room) :
    ∃ embedded, frame.embed ⟨header, carried⟩ = .ok embedded := by
  apply Frame.exists_embed
  · exact husable.encodedLength_le hcarry.layout hcount
  · have hoverhead := husable.overhead
    rw [elements_length_of_mayCarry hcarry]
    simp only [Budget.telemetryCost, budget, Budget.ofSettings, Settings.initCost] at hfits
    omega

/-- **One sender.** With enough header room, a frame leaves with the content extended. -/
theorem prepareOutgoing_bears {node : Node} (hnode : node.Invariant) {frame : Frame}
    (hframe : frame.WellFormed) (hkind : frame.kind = .data)
    (hroom : node.settings.frameBudget ≤ frame.room)
    (hreporting : node.settings.Reporting frame.length) {origin : TrafficOrigin} {record : Record}
    (hcarried : (node.contentFor origin).records.length ≤ node.budget.recordRoom frame.length)
    (hrecord : node.ownRecord? (node.contentFor origin).header.bitmap origin = some record) :
    ∃ content,
      content = (node.contentFor origin).extended (node.budget.recordRoom frame.length) record ∧
        (node.prepareOutgoing frame origin).2.2.Bears content frame.body ∧
          ∀ record ∈ content.records, record.hasLayout node.settings.layout = true := by
  obtain ⟨outcome, carrier, carried, written, next, grown, heq, hbudgeted, hdeparture, _⟩ :=
    prepareOutgoing_spec hnode hkind origin
  have hcarry := hbudgeted.mayCarry hnode
  have hfits := hbudgeted.fits hreporting.limit
  obtain ⟨after, rfl, hextended⟩ := hbudgeted.extended hnode.usable hreporting hcarried hrecord
  refine ⟨⟨after, carried⟩, hextended, ?_, hcarry.layout⟩
  have hlength := TelemetryContent.extended_records_length_le hcarried record
  rw [← hextended] at hlength
  rw [heq]
  cases hdeparture with
  | loaded hembed => exact (hframe.bears_of_embed hembed).1
  | refused herror =>
    obtain ⟨embedded, hembed⟩ := exists_embed_of_fits hnode.usable hcarry
      (Nat.le_trans hlength hreporting.room_le) (hfits (by simp)) hroom
    rw [herror] at hembed
    cases hembed

theorem takenHeader_of_le {node : Node} {content : TelemetryContent}
    (h : content.records.length ≤ node.settings.carrierCapacity) :
    node.takenHeader content = content.header := by
  rw [takenHeader, if_neg]
  simp only [Nat.not_lt.mpr h, decide_false, Bool.false_and, Bool.false_eq_true, not_false_eq_true]

/-- **One receiver.** A node without a carrier has the content in hand afterwards, with the channel
on which it heard the frame filled in. -/
theorem receiveFrame_takes {node : Node} (hnode : node.Invariant) (hnone : node.carrier = none)
    {sent : Frame} {content : TelemetryContent} {payload : Bytes}
    (hsent : sent.Bears content payload) (hsubtype : content.header.subtype = node.settings.subtype)
    (hlayout : ∀ record ∈ content.records, record.hasLayout node.settings.layout = true)
    (hcount : content.records.length ≤ node.settings.carrierCapacity) :
    ∃ found next arrived, node.receiveFrame sent.received false = (found, next, arrived) ∧
      arrived.data = payload ∧ next.settings = node.settings ∧
        next.environment = node.environment ∧
          next.contentFor .forwarder = content.fillChannels node.environment.channel.toNat := by
  have hfits := hnode.usable.encodedLength_le hlayout hcount
  have hread := readTelemetry_elements hnode.usable.recordSize_pos hsubtype hlayout hfits payload
  obtain ⟨taken, next, arrived, heq, rfl, hdata, _, hsettings, henvironment, hcarried⟩ :=
    receiveFrame_spec hnode hsent hread false
  obtain ⟨hheader, hrecords⟩ := hcarried rfl hnone
  refine ⟨_, next, arrived, heq, hdata, hsettings, henvironment, ?_⟩
  have hfilled : (content.fillChannels node.environment.channel.toNat).records.length
      ≤ node.settings.carrierCapacity := by
    rw [TelemetryContent.fillChannels, List.length_map]
    exact hcount
  rw [contentFor, carrierFor, hheader, hrecords, takenHeader_of_le hfilled,
    List.take_of_length_le hfilled]

end Node

end MeshTelemetry
