import MeshTelemetry.Node.Relay
import MeshTelemetry.Proofs.Node.Admission
import MeshTelemetry.Proofs.Node.Extraction

/-!
# How frames pass a node

A data frame leaves with the carrier that the budget has left, if its elements find room, and without
one otherwise; the node has no carrier afterwards. A frame that arrives with telemetry is stripped of
the list of elements, and a node without a carrier takes the content over.
-/

namespace MeshTelemetry

/-- The frame announces elements, and behind its link header are those around the content, and the
payload. -/
structure Frame.Bears (frame : Frame) (content : TelemetryContent) (payload : Bytes) : Prop where
  announced : frame.hasElements = true
  body : frame.body = content.elements ++ payload

theorem Frame.WellFormed.bears_of_embed {frame raised : Frame} {content : TelemetryContent}
    {written : Nat} (hframe : frame.WellFormed) (h : frame.embed content = .ok (written, raised)) :
    (raised.setHasElements true).Bears content frame.body ∧
      content.encodedLength ≤ maxPayloadContent := by
  obtain ⟨hfits, _, region, allocated, halloc, rfl⟩ := Frame.embed_eq_ok_iff.mp h
  exact ⟨⟨rfl, hframe.body_written halloc⟩, hfits⟩

namespace Node

/-- How a frame leaves, given the carrier and the records that the budget has left for it. -/
inductive Departure (frame : Frame) (carried : List Record) :
    Option TelemetryHeader → Nat → Frame → Prop where
  | bare : Departure frame carried none 0 frame
  | refused {header : TelemetryHeader} {err : TelemetryError} :
      frame.embed ⟨header, carried⟩ = .error err →
      Departure frame carried (some header) 0 frame
  | loaded {header : TelemetryHeader} {written : Nat} {raised : Frame} :
      frame.embed ⟨header, carried⟩ = .ok (written, raised) →
      Departure frame carried (some header) written (raised.setHasElements true)

section

variable {node : Node} {counters : Counters} {origin : TrafficOrigin}
  {outcome : AdmissionOutcome} {carrier : Option TelemetryHeader}

theorem Admission.of_withCounters {header : TelemetryHeader} {carried others : List Record}
    {decision : BudgetDecision}
    (h : Admission { node with counters := counters } origin header carried decision outcome
      carrier others) :
    Admission node origin header carried decision outcome carrier others := by
  cases h with
  | discarded => exact .discarded
  | truncated => exact .truncated
  | forwarded => exact .forwarded
  | marked => exact .marked
  | sampledOut slots hsampling => exact .sampledOut slots hsampling
  | notSelected slots hrecord => exact .notSelected slots hrecord
  | poolExhausted slots hfull => exact .poolExhausted slots hfull
  | admitted slots hrecord => exact .admitted slots hrecord

theorem Budgeted.of_withCounters {frameLength : Nat} {carried : List Record}
    (h : Budgeted { node with counters := counters } frameLength origin outcome carrier carried) :
    Budgeted node frameLength origin outcome carrier carried := by
  have hfor : carrierFor { node with counters := counters } origin = node.carrierFor origin := by
    cases origin <;> rfl
  cases h with
  | skipped hnone hskip => exact .skipped (hfor ▸ hnone) hskip
  | created hnone hcreate hadmission =>
    exact .created (hfor ▸ hnone) hcreate hadmission.of_withCounters
  | carried hsome hadmission => exact .carried (hfor ▸ hsome) hadmission.of_withCounters

theorem Becomes.of_withCounters {next : Node} {carried : List Record}
    (h : Becomes { node with counters := counters } next carrier carried) :
    node.Becomes next carrier carried :=
  ⟨h.settings, h.environment, h.carrier, h.stores⟩

theorem Becomes.capture {next : Node} {carried : List Record}
    (h : node.Becomes next carrier carried) (frame : Bytes) :
    node.Becomes (next.capture frame) carrier carried :=
  ⟨h.settings, h.environment, h.carrier, h.stores⟩

end

theorem carriesTelemetry_iff {kind : FrameKind} : kind.carriesTelemetry = true ↔ kind = .data := by
  cases kind <;> simp [FrameKind.carriesTelemetry]

theorem prepareOutgoing_other {node : Node} {frame : Frame} (hkind : frame.kind ≠ .data)
    (origin : TrafficOrigin) :
    ∃ counters recorder, node.prepareOutgoing frame origin
      = (0, { node with counters := counters, recorder := recorder }, frame) := by
  rw [prepareOutgoing, if_neg (mt carriesTelemetry_iff.mp hkind)]
  exact ⟨_, _, rfl⟩

/-- **A data frame that leaves.** It departs with what the budget has left, and the node keeps
neither a carrier nor carried records. -/
theorem prepareOutgoing_spec {node : Node} (hnode : node.Invariant) {frame : Frame}
    (hkind : frame.kind = .data) (origin : TrafficOrigin) :
    ∃ outcome carrier carried written next grown,
      node.prepareOutgoing frame origin = (written, next, grown) ∧
        Budgeted node frame.length origin outcome carrier carried ∧
          Departure frame carried carrier written grown ∧ node.Becomes next none [] := by
  have hseen := hnode.withCounters
    { node.counters with framesSeen := node.counters.framesSeen + 1 }
  obtain ⟨outcome, decided, carrier, carried, happly, hbudgeted, hdecided⟩ :=
    applyBudget_spec hseen frame.length origin
  have hcarry := hbudgeted.mayCarry hseen
  have hinvariant := hdecided.invariant hseen hcarry
  have hdata := carriesTelemetry_iff.mpr hkind
  refine ⟨outcome, carrier, carried, ?_⟩
  rw [prepareOutgoing, if_pos hdata, happly]
  cases carrier with
  | none =>
    -- Nothing is embedded; that no records are left either is the invariant's.
    rw [if_neg (by simp [hdecided.carrier])]
    obtain rfl := hcarry.no_records rfl
    exact ⟨0, _, frame, rfl, hbudgeted.of_withCounters, .bare, (hdecided.capture _).of_withCounters⟩
  | some header =>
    rw [if_pos (by simp [hdecided.carrier])]
    obtain ⟨result, embedded, grown, hembed, hfreed, hresult⟩ :=
      embed_spec hinvariant hdecided.carrier frame
    have hnext := ((hdecided.trans hfreed).capture grown.wire).of_withCounters
    rw [hdecided.carrierRecords_eq] at hresult
    simp only [hembed]
    refine ⟨_, _, grown, rfl, hbudgeted.of_withCounters, ?_, hnext⟩
    rcases hresult with ⟨written, raised, hraised, rfl, rfl⟩ | ⟨err, herror, rfl, rfl⟩
    · exact .loaded hraised
    · exact .refused herror

/-- **A frame that arrives with telemetry.** What is left of it is the payload behind the elements,
and a node that has no carrier and is not the destination takes the content over. -/
theorem receiveFrame_spec {node : Node} (hnode : node.Invariant) {sent : Frame}
    {written found : TelemetryContent} {payload : Bytes} (hsent : sent.Bears written payload)
    (hread : readTelemetry node.settings (written.elements ++ payload)
      = .ok (some (found, written.elements.length)))
    (destinedHere : Bool) :
    ∃ content next stripped,
      node.receiveFrame sent.received destinedHere = (some content, next, stripped) ∧
        content = found.fillChannels node.environment.channel.toNat ∧ stripped.data = payload ∧
          stripped.hasElements = false ∧ next.settings = node.settings ∧
            next.environment = node.environment ∧
              (destinedHere = false → node.carrier = none →
                next.carrier = some (node.takenHeader content) ∧
                  next.carrierRecords = content.records.take node.settings.carrierCapacity) := by
  have hdata : sent.received.data = written.elements ++ payload :=
    (Frame.data_received sent).trans hsent.body
  have hcaptured : (node.capture sent.received.wire).Invariant := hnode.withRecorder _
  have hannounced : sent.received.hasElements = true := hsent.announced
  have hread' : readTelemetry (node.capture sent.received.wire).settings sent.received.data
      = .ok (some (found, written.elements.length)) := hdata ▸ hread
  have hextract := extract_of_content hannounced hdata hread' destinedHere
  have hcarries := takeIn_carries hcaptured
    (found.fillChannels node.environment.channel.toNat)
  obtain ⟨hsettings, henvironment⟩ := takeIn_settings hcaptured
    (found.fillChannels node.environment.channel.toNat) destinedHere
  rw [receiveFrame, hextract]
  refine ⟨_, _, { sent.received with
    dataStart := sent.received.dataStart + written.elements.length
    hasElements := false }, rfl, rfl, Frame.data_consumed hdata, rfl, hsettings, henvironment, ?_⟩
  rintro rfl hnone
  exact hcarries hnone

end Node

end MeshTelemetry
