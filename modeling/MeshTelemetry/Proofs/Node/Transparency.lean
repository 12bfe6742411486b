import MeshTelemetry.Proofs.Node.Reachable
import MeshTelemetry.Proofs.Node.Relay
import MeshTelemetry.Proofs.Telemetry.RoundTrip

/-!
# Telemetry is transparent

A sender puts its elements in front of the payload or leaves the frame alone, and a receiver of the
same subtype cuts off exactly what was put there. It need not know the sender's layout, for the
length of the list does not depend on how the content is read. So whatever the payload begins with,
it goes through any number of hops unchanged.
-/

namespace MeshTelemetry

/-- What a frame holds behind its link header: the payload, alone or behind telemetry that a node of
the subtype can find. -/
inductive Frame.Holds (frame : Frame) (subtype : UInt8) (payload : Bytes) : Prop where
  | alone : frame.hasElements = false → frame.body = payload → Holds frame subtype payload
  | behind (content : TelemetryContent) :
      frame.Bears content payload → content.header.subtype = subtype →
      content.encodedLength ≤ maxPayloadContent → Holds frame subtype payload

namespace Node

/-- Preparing a frame puts telemetry of the node's subtype in front of the payload, or nothing. -/
theorem holds_prepareOutgoing {node : Node} (hnode : node.Invariant) {frame : Frame}
    (hframe : frame.WellFormed) (hplain : frame.hasElements = false) (origin : TrafficOrigin) :
    (node.prepareOutgoing frame origin).2.2.Holds node.settings.subtype frame.body := by
  by_cases hkind : frame.kind = .data
  · obtain ⟨outcome, carrier, carried, written, next, grown, heq, hbudgeted, hdeparture, _⟩ :=
      prepareOutgoing_spec hnode hkind origin
    rw [heq]
    cases hdeparture with
    | bare | refused => exact .alone hplain rfl
    | @loaded header written raised hembed =>
      obtain ⟨hbears, hfits⟩ := hframe.bears_of_embed hembed
      exact .behind ⟨header, carried⟩ hbears ((hbudgeted.mayCarry hnode).subtype header rfl) hfits
  · obtain ⟨counters, recorder, heq⟩ := @prepareOutgoing_other node frame hkind origin
    rw [heq]
    exact .alone hplain rfl

theorem receiveFrame_of_holds {node : Node} (hnode : node.Invariant) {frame : Frame}
    {payload : Bytes} (h : frame.Holds node.settings.subtype payload) (destinedHere : Bool) :
    (node.receiveFrame frame.received destinedHere).2.2.data = payload ∧
      (node.receiveFrame frame.received destinedHere).2.2.hasElements = false := by
  cases h with
  | alone hplain hbody =>
    have hplain' : frame.received.hasElements = false := hplain
    have hsame : (node.receiveFrame frame.received destinedHere).2.2 = frame.received := by
      rw [receiveFrame, extract_unannounced _ hplain']
    rw [hsame, Frame.data_received]
    exact ⟨hbody, hplain⟩
  | behind content hbears hsubtype hfits =>
    obtain ⟨found, hread⟩ := exists_readTelemetry_elements hnode.usable.recordSize_pos hsubtype
      hfits payload
    obtain ⟨_, _, stripped, heq, _, hrest, hgone, _⟩ :=
      receiveFrame_spec hnode hbears hread destinedHere
    rw [heq]
    exact ⟨hrest, hgone⟩

/-- One transmission: who sends what sort of frame, and who receives it. -/
structure Hop where
  sender : Node
  origin : TrafficOrigin
  kind : FrameKind
  linkHeader : Bytes
  room : Nat
  receiver : Node
  destinedHere : Bool

namespace Hop

/-- The frame that the sender makes from the payload, as the neighbour gets it. -/
def transmitted (hop : Hop) (payload : Bytes) : Frame :=
  (hop.sender.prepareOutgoing (.withHeaderRoom hop.kind hop.linkHeader payload hop.room)
    hop.origin).2.2.received

def arrived (hop : Hop) (payload : Bytes) : Frame :=
  (hop.receiver.receiveFrame (hop.transmitted payload) hop.destinedHere).2.2

/-- Both nodes are ones that a run can lead to, and both look for this subtype. The two need not be
in the same run, nor agree on anything else. -/
structure Speaks (hop : Hop) (subtype : UInt8) : Prop where
  sender : hop.sender.Reachable
  receiver : hop.receiver.Reachable
  sender_subtype : hop.sender.settings.subtype = subtype
  receiver_subtype : hop.receiver.settings.subtype = subtype

theorem Speaks.arrived {hop : Hop} {subtype : UInt8} (h : hop.Speaks subtype) (payload : Bytes) :
    (hop.arrived payload).data = payload ∧ (hop.arrived payload).hasElements = false := by
  have hwell := (Frame.Reachable.outgoing hop.kind hop.linkHeader payload hop.room).wellFormed
  have hholds := holds_prepareOutgoing h.sender.invariant hwell rfl hop.origin
  rw [Frame.body_withHeaderRoom, h.sender_subtype, ← h.receiver_subtype] at hholds
  exact receiveFrame_of_holds h.receiver.invariant hholds hop.destinedHere

end Hop

/-- The frames that arrive along a path on which every frame is made from the data of the one before
it. -/
def arrivals : List Hop → Bytes → List Frame
  | [], _ => []
  | hop :: hops, payload => hop.arrived payload :: arrivals hops (hop.arrived payload).data

/-- **Telemetry is transparent.** Over any path of nodes that look for one subtype, whatever state
each of them is in, every frame that arrives holds the payload and nothing else. -/
theorem arrivals_data {subtype : UInt8} {hops : List Hop} (h : ∀ hop ∈ hops, hop.Speaks subtype)
    (payload : Bytes) :
    (arrivals hops payload).length = hops.length ∧
      ∀ frame ∈ arrivals hops payload, frame.data = payload ∧ frame.hasElements = false := by
  induction hops with
  | nil => exact ⟨rfl, fun _ hmem => nomatch hmem⟩
  | cons hop hops ih =>
    obtain ⟨hhop, hhops⟩ := List.forall_mem_cons.mp h
    have harrived := hhop.arrived payload
    obtain ⟨hlength, hothers⟩ := ih hhops
    rw [arrivals, harrived.1]
    refine ⟨?_, List.forall_mem_cons.mpr ⟨harrived, hothers⟩⟩
    rw [List.length_cons, List.length_cons, hlength]

/-- A payload that starts like the termination of a list of elements. -/
def terminationLike : Bytes := payloadTermination ++ [0x2A]

/-- The node in the middle of a path; it cuts records into three bytes. -/
def middleNode : Node where
  settings := { layout := .filler 3 }
  environment := { nodeId := 2 }
  store := .ofCapacities 32 256

def hopToMiddle : Hop where
  sender := { settings := {}, environment := { nodeId := 1 }, store := .ofCapacities 32 256 }
  origin := .originator
  kind := .data
  linkHeader := [0x61]
  room := defaultHeaderRoom
  receiver := middleNode
  destinedHere := false

/-- The middle node with the carrier that the first hop has brought it. -/
def loadedMiddleNode : Node :=
  middleNode.perform (.receiveFrame (hopToMiddle.transmitted terminationLike) false)

def hopFromMiddle : Hop where
  sender := loadedMiddleNode
  origin := .forwarder
  kind := .data
  linkHeader := []
  room := defaultHeaderRoom
  receiver := { settings := {}, environment := { nodeId := 3 }, store := .ofCapacities 32 256 }
  destinedHere := true

theorem arrivals_data_twoHops :
    hopToMiddle.Speaks 0x2A ∧ hopFromMiddle.Speaks 0x2A ∧
      (hopToMiddle.transmitted terminationLike).data.length = 18 ∧
      (hopFromMiddle.transmitted terminationLike).data.length = 19 ∧
      (arrivals [hopToMiddle, hopFromMiddle] terminationLike).length = 2 ∧
        ∀ frame ∈ arrivals [hopToMiddle, hopFromMiddle] terminationLike,
          frame.data = [0x00, 0xF8, 0x2A] ∧ frame.hasElements = false := by
  have hmiddle : middleNode.Reachable :=
    @Reachable.start { layout := .filler 3 } { nodeId := 2 } _ rfl
  have hto : hopToMiddle.Speaks 0x2A :=
    ⟨@Reachable.start {} { nodeId := 1 } _ rfl, hmiddle, rfl, rfl⟩
  have hloaded : loadedMiddleNode.Reachable := .perform _ hmiddle
  have hfrom : hopFromMiddle.Speaks 0x2A := by
    refine ⟨?_, @Reachable.start {} { nodeId := 3 } _ rfl, by decide +kernel, rfl⟩
    simpa only [hopFromMiddle] using hloaded
  have hboth : ∀ hop ∈ [hopToMiddle, hopFromMiddle], hop.Speaks 0x2A := by
    intro hop hmem
    rcases List.mem_pair.mp hmem with rfl | rfl
    · exact hto
    · exact hfrom
  exact ⟨hto, hfrom, by decide +kernel, by decide +kernel, arrivals_data hboth terminationLike⟩

end Node

end MeshTelemetry
