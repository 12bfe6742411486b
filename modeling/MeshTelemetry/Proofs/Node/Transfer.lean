import Mathlib.Data.List.Forall2
import MeshTelemetry.Proofs.Node.Consistency
import MeshTelemetry.Proofs.Node.Relay

/-!
# From one node to the next

What a node writes into a frame is what the next node reads from it. A carrier is always of its
node's subtype and layout, so a reader of the same settings finds the element, takes the same header
from it and cuts the records where they were put together. Only the channel is new: the reader fills
it in where the writer has left it open.
-/

namespace MeshTelemetry

/-- A record as it was sent and as it is read by who heard it on the channel: a sample that names no
channel gets this one, and all else stays. -/
inductive Record.HeardOn (channel : Nat) : Record → Record → Prop where
  | unnamed {sample : Sample} :
      sample.channel.val = 0 →
      HeardOn channel (.sample sample) (.sample { sample with channel := lowNibble channel })
  | named {sample : Sample} :
      sample.channel.val ≠ 0 → HeardOn channel (.sample sample) (.sample sample)
  | filler (bytes : Bytes) : HeardOn channel (.filler bytes) (.filler bytes)

theorem Record.heardOn_fillChannel (channel : Nat) (record : Record) :
    record.HeardOn channel (record.fillChannel channel) := by
  cases record with
  | filler bytes => exact .filler bytes
  | sample fields =>
    rw [fillChannel, Sample.fillChannel]
    by_cases hunnamed : fields.channel.val = 0
    · rw [if_pos hunnamed]
      exact .unnamed hunnamed
    · rw [if_neg hunnamed]
      exact .named hunnamed

theorem TelemetryContent.forall₂_heardOn (content : TelemetryContent) (channel : Nat) :
    List.Forall₂ (Record.HeardOn channel) content.records (content.fillChannels channel).records := by
  apply List.forall₂_map_right_iff.mpr
  apply List.forall₂_same.mpr
  intro record _
  exact record.heardOn_fillChannel channel

/-- A neighbour with settings that the content is made for reads it from the frame. -/
theorem Frame.Bears.readTelemetry_received {settings : Settings} {frame : Frame}
    {content : TelemetryContent} {payload : Bytes} (h : frame.Bears content payload)
    (hsize : 0 < settings.recordSize) (hsubtype : content.header.subtype = settings.subtype)
    (hlayout : ∀ record ∈ content.records, record.hasLayout settings.layout = true)
    (hfits : content.encodedLength ≤ maxPayloadContent) :
    frame.received.data = content.elements ++ payload ∧
      readTelemetry settings frame.received.data
        = .ok (some (content, content.elements.length)) := by
  have hdata : frame.received.data = content.elements ++ payload :=
    (Frame.data_received frame).trans h.body
  refine ⟨hdata, ?_⟩
  rw [hdata]
  exact readTelemetry_elements hsize hsubtype hlayout hfits payload

namespace Node

variable {sender receiver next : Node} {header : TelemetryHeader} {frame grown : Frame}
  {written : Nat}

/-- A frame that a carrier was embedded in bears it. -/
theorem bears_of_embed (hsender : sender.Invariant) (hheader : sender.carrier = some header)
    (hframe : frame.WellFormed) (hembed : sender.embed frame = (.ok written, next, grown)) :
    grown.Bears ⟨header, sender.carrierRecords⟩ frame.body ∧
      TelemetryContent.encodedLength ⟨header, sender.carrierRecords⟩ ≤ maxPayloadContent := by
  obtain ⟨result, freed, left, heq, _, hresult⟩ := embed_spec hsender hheader frame
  rw [hembed] at heq
  cases heq
  rcases hresult with ⟨_, raised, hraised, _, rfl⟩ | ⟨err, _, herror, _⟩
  · exact hframe.bears_of_embed hraised
  · cases herror

/-- **What is embedded is extracted.** A node with the sender's layout and subtype extracts the
sender's carrier: the same header, and the same records in the same order, with the channel on which
the node hears filled in. -/
theorem extract_embed (hsender : sender.Reachable) (hreceiver : receiver.Reachable)
    (hlayout : receiver.settings.layout = sender.settings.layout)
    (hsubtype : receiver.settings.subtype = sender.settings.subtype) (hframe : frame.Reachable)
    (hheader : sender.carrier = some header)
    (hembed : sender.embed frame = (.ok written, next, grown)) (destinedHere : Bool) :
    ∃ content after stripped,
      receiver.extract grown.received destinedHere = (.ok (some content), after, stripped) ∧
        content.header = header ∧
          List.Forall₂ (Record.HeardOn receiver.environment.channel.toNat) sender.carrierRecords
            content.records := by
  have hcarry := hsender.invariant.mayCarry
  obtain ⟨hbears, hfits⟩ := bears_of_embed hsender.invariant hheader hframe.wellFormed hembed
  have hsubtypes : header.subtype = receiver.settings.subtype :=
    (hcarry.subtype header hheader).trans hsubtype.symm
  have hlayouts : ∀ record ∈ sender.carrierRecords,
      record.hasLayout receiver.settings.layout = true := by
    rw [hlayout]
    exact hcarry.layout
  obtain ⟨hdata, hread⟩ := hbears.readTelemetry_received
    hreceiver.invariant.usable.recordSize_pos hsubtypes hlayouts hfits
  have hannounced : grown.received.hasElements = true := hbears.announced
  exact ⟨_, _, _, extract_of_content hannounced hdata hread destinedHere, rfl,
    TelemetryContent.forall₂_heardOn ⟨header, sender.carrierRecords⟩ _⟩

theorem extract_embed_carryingOne :
    ∃ receiver written next grown content after stripped,
      Node.start {} { nodeId := 2, channel := 0x13 } = .ok receiver ∧
        carryingOne.embed (.outgoing .data [] [1, 2, 3]) = (.ok written, next, grown) ∧
          receiver.extract grown.received false = (.ok (some content), after, stripped) ∧
            content.header = ⟨0x2A, ⟨0xA0⟩, 1, 0xFF⟩ ∧
              content.records = [.sample ⟨10, 3, 256, -60⟩] := by
  let receiver : Node :=
    { settings := {}
      environment := { nodeId := 2, channel := 0x13 }
      store := .ofCapacities 32 256 }
  have hstart : Node.start {} { nodeId := 2, channel := 0x13 } = .ok receiver := rfl
  have hsender : carryingOne.Reachable := .perform _ (@Reachable.start {} { nodeId := 1 } _ rfl)
  have hsettings : receiver.settings = carryingOne.settings := by decide +kernel
  have hheader : carryingOne.carrier = some ⟨0x2A, ⟨0xA0⟩, 1, 0xFF⟩ := by decide +kernel
  have hchannel : lowNibble receiver.environment.channel.toNat = 3 := by decide +kernel
  have hrecords : carryingOne.carrierRecords = [.sample ⟨10, 0, 256, -60⟩] := by decide +kernel
  have hembed : (carryingOne.embed (.outgoing .data [] [1, 2, 3])).1 = .ok 15 := by decide +kernel
  obtain ⟨content, after, stripped, hextract, hsame, hheard⟩ :=
    extract_embed hsender (.start hstart) (congrArg Settings.layout hsettings)
      (congrArg Settings.subtype hsettings) (.outgoing .data [] [1, 2, 3] defaultHeaderRoom) hheader
      (Prod.ext hembed rfl) false
  rw [hrecords] at hheard
  refine ⟨receiver, _, _, _, content, after, stripped, hstart, Prod.ext hembed rfl, hextract, hsame,
    ?_⟩
  -- The relation alone fixes what was heard, since there is one record and it names no channel.
  generalize content.records = records at hheard
  cases hheard with
  | cons hfirst hrest =>
    cases hrest
    cases hfirst with
    | unnamed => rw [hchannel]
    | named hnamed => exact absurd rfl hnamed

end Node

end MeshTelemetry
