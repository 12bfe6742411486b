import Mathlib.Data.List.Induction
import MeshTelemetry.Proofs.Node.Extension
import MeshTelemetry.Proofs.Telemetry.Header

/-!
# What a path reports

A frame that travels along a path collects the records of the nodes in the order of the path, until
the budget leaves no room for another. From then on nothing changes but the overflow flag, which the
first node without room sets. The proof goes along the path: what the frame tells about the nodes
so far determines what it tells about one more.
-/

namespace MeshTelemetry

/-- A node on a path, and what it puts around a payload that it sends. -/
structure Station where
  node : Node
  linkHeader : Bytes
  room : Nat

namespace Station

/-- The frame that the station's node, in the state that it is in by then, makes from the payload. -/
def send (station : Station) (node : Node) (payload : Bytes) (origin : TrafficOrigin) : Frame :=
  (node.prepareOutgoing (.withHeaderRoom .data station.linkHeader payload station.room) origin).2.2

def originate (station : Station) (payload : Bytes) : Frame :=
  station.send station.node payload .originator

/-- Takes a frame in that is not for the node itself, and sends the data on in a new frame. -/
def relay (station : Station) (sent : Frame) : Frame :=
  let (_, node, arrived) := station.node.receiveFrame sent.received false
  station.send node arrived.data .forwarder

def channel (station : Station) : Nat := station.node.environment.channel.toNat

end Station

/-- The frame that the last node of a path sends. -/
def lastSent (first : Station) (others : List Station) (payload : Bytes) : Frame :=
  others.foldl (fun sent station => station.relay sent) (first.originate payload)

/-- The record as it is after these stations have received it one after another. -/
def Record.receivedBy (record : Record) (path : List Station) : Record :=
  path.foldl (fun record station => record.fillChannel station.channel) record

def originAt : Nat → TrafficOrigin
  | 0 => .originator
  | _ + 1 => .forwarder

/-- The content reports the path: there is a record of each of its nodes as far as there is room, and
the header counts the records and tells whether one is missing. -/
structure TelemetryContent.Reports (content : TelemetryContent) (settings : Settings)
    (path : List Station) (room : Nat) : Prop where
  subtype : content.header.subtype = settings.subtype
  bitmap : content.header.bitmap = settings.defaultBitmap
  length : content.records.length = min path.length room
  records : ∀ index station, index < room → path[index]? = some station →
    ∃ record,
      station.node.ownRecord? settings.defaultBitmap (originAt index) = some record ∧
        content.records[index]? = some (record.receivedBy (path.drop (index + 1)))
  sequence : content.header.sequence.toNat = min path.length room % 256
  overflow : content.header.isOverflowed = true ↔ room < path.length

namespace TelemetryContent.Reports

variable {content : TelemetryContent} {settings : Settings} {path : List Station} {room : Nat}

theorem fresh (hcontrol : settings.initialControl &&& overflowMask = 0) :
    Reports ⟨.fresh settings.subtype settings.initialControl settings.defaultBitmap, []⟩ settings []
      room where
  subtype := rfl
  bitmap := rfl
  length := (Nat.zero_min room).symm
  records := fun _ _ _ hstation => nomatch hstation
  sequence := by rw [List.length_nil, Nat.zero_min]; rfl
  overflow := by
    simp [TelemetryHeader.isOverflowed, TelemetryHeader.fresh, Control.isOverflowed, hcontrol]

/-- What was there stays, filled in by the next receiver. -/
theorem records_filled (h : content.Reports settings path room) (next : Station) {index : Nat}
    {station : Station} (hroom : index < room) (hindex : index < path.length)
    (hstation : (path ++ [next])[index]? = some station) :
    ∃ record,
      station.node.ownRecord? settings.defaultBitmap (originAt index) = some record ∧
        (content.fillChannels next.channel).records[index]?
          = some (record.receivedBy ((path ++ [next]).drop (index + 1))) := by
  rw [List.getElem?_append_left hindex] at hstation
  obtain ⟨record, hown, hrecord⟩ := h.records index station hroom hstation
  refine ⟨record, hown, ?_⟩
  rw [fillChannels, List.getElem?_map, hrecord, List.drop_append_of_le_length hindex,
    Record.receivedBy, Record.receivedBy, List.foldl_append]
  rfl

/-- Once the room is used up, only the overflow flag is still to be set. -/
theorem kept (h : content.Reports settings path room) (next : Station) (hfull : room ≤ path.length)
    {control : Control} (hcontrol : control.isOverflowed = true) :
    Reports ⟨{ content.header with control := control },
      (content.fillChannels next.channel).records⟩ settings (path ++ [next]) room := by
  have hpath : (path ++ [next]).length = path.length + 1 := List.length_append
  refine ⟨h.subtype, h.bitmap, ?_, ?_, ?_, ?_⟩
  · rw [fillChannels, List.length_map, h.length, hpath]
    omega
  · intro index station hroom hstation
    exact h.records_filled next hroom (by omega) hstation
  · rw [hpath, Nat.min_eq_right (by omega), ← Nat.min_eq_right hfull]
    exact h.sequence
  · rw [hpath]
    exact iff_of_true hcontrol (by omega)

/-- A node with room adds its record and counts it. -/
theorem appended (h : content.Reports settings path room) {next : Station} {record : Record}
    (hown : next.node.ownRecord? settings.defaultBitmap (originAt path.length) = some record)
    (hroom : path.length < room) :
    Reports ⟨{ content.header with sequence := content.header.sequence + 1 },
      (content.fillChannels next.channel).records ++ [record]⟩ settings (path ++ [next]) room := by
  have hpath : (path ++ [next]).length = path.length + 1 := List.length_append
  have hmin : min path.length room = path.length := Nat.min_eq_left (Nat.le_of_lt hroom)
  have hlength := h.length
  have hsequence := h.sequence
  rw [hmin] at hlength hsequence
  have hfilled : (content.fillChannels next.channel).records.length = path.length :=
    (List.length_map _).trans hlength
  refine ⟨h.subtype, h.bitmap, ?_, ?_, ?_, ?_⟩
  · rw [List.length_append, hfilled, hpath]
    exact (Nat.min_eq_left hroom).symm
  · intro index station hindex hstation
    obtain ⟨hlt, _⟩ := List.getElem?_eq_some_iff.mp hstation
    rcases Nat.lt_or_eq_of_le (Nat.le_of_lt_succ (hpath ▸ hlt)) with hearlier | rfl
    · obtain ⟨earlier, hown, hrecord⟩ := h.records_filled next hindex hearlier hstation
      exact ⟨earlier, hown, by rw [List.getElem?_append_left (hfilled ▸ hearlier), hrecord]⟩
    · rw [List.getElem?_concat_length, Option.some.injEq] at hstation
      subst hstation
      refine ⟨record, hown, ?_⟩
      rw [← hfilled, List.getElem?_concat_length, hfilled, ← hpath, List.drop_length]
      rfl
  · rw [hpath, Nat.min_eq_left hroom, UInt8.toNat_add, hsequence]
    exact Nat.mod_add_mod path.length 256 1
  · rw [hpath]
    refine iff_of_false (fun hoverflowed => ?_) (by omega)
    exact absurd (h.overflow.mp hoverflowed) (by omega)

/-- **One node more.** It adds its record, marks the content or passes it on, as there is room. -/
theorem extended (h : content.Reports settings path room) {next : Station} {record : Record}
    (hown : next.node.ownRecord? settings.defaultBitmap (originAt path.length) = some record) :
    ((content.fillChannels next.channel).extended room record).Reports settings (path ++ [next])
      room := by
  have hlength := h.length
  have hfilled : (content.fillChannels next.channel).records.length = content.records.length :=
    List.length_map _
  unfold TelemetryContent.extended
  split
  · rename_i hoverflowed
    exact h.kept next (Nat.le_of_lt (h.overflow.mp hoverflowed)) hoverflowed
  · rename_i hwhole
    have hshort : path.length ≤ room := Nat.le_of_not_lt (mt h.overflow.mpr hwhole)
    split
    · rename_i hroom
      exact h.appended hown (by omega)
    · rename_i hfull
      exact h.kept next (by omega) (Control.isOverflowed_setOverflowed content.header.control)

end TelemetryContent.Reports

/-- A node that can take part: it has the settings of the path, which select it, no carrier in hand,
and frames with enough room. -/
structure Station.Ready (station : Station) (settings : Settings) (headerLength : Nat) : Prop where
  reachable : station.node.Reachable
  settings_eq : station.node.settings = settings
  carrier : station.node.carrier = none
  selected : bitmapSelects settings.defaultBitmap station.node.environment.nodeId = true
  headerLength_eq : station.linkHeader.length = headerLength
  room_le : settings.frameBudget ≤ station.room

/-- The frame brings the payload and a report of the path. -/
def Frame.Reports (frame : Frame) (settings : Settings) (path : List Station) (room : Nat)
    (payload : Bytes) : Prop :=
  ∃ content : TelemetryContent, frame.Bears content payload ∧
    content.Reports settings path room ∧
      ∀ record ∈ content.records, record.hasLayout settings.layout = true

namespace Station.Ready

variable {station : Station} {settings : Settings} {headerLength : Nat} {payload : Bytes}

theorem exists_ownRecord (h : station.Ready settings headerLength) (origin : TrafficOrigin) :
    ∃ record, station.node.ownRecord? settings.defaultBitmap origin = some record :=
  ⟨_, if_pos h.selected⟩

/-- A node with the station's surroundings sends the path's report, extended by the station. -/
theorem send_reports (h : station.Ready settings headerLength)
    (hreporting : settings.Reporting (headerLength + payload.length)) {node : Node}
    (hnode : node.Invariant) (hsettings : node.settings = settings)
    (henvironment : node.environment = station.node.environment) {path : List Station}
    {content : TelemetryContent}
    (hcontent : node.contentFor (originAt path.length) = content.fillChannels station.channel)
    (hreports : content.Reports settings path
      ((Budget.ofSettings settings).recordRoom (headerLength + payload.length))) :
    (station.send node payload (originAt path.length)).Reports settings (path ++ [station])
      ((Budget.ofSettings settings).recordRoom (headerLength + payload.length)) payload := by
  obtain ⟨record, hrecord⟩ := h.exists_ownRecord (originAt path.length)
  have hlength : (Frame.withHeaderRoom .data station.linkHeader payload station.room).length
      = headerLength + payload.length := by
    rw [Frame.length_withHeaderRoom, h.headerLength_eq]
  have hown : node.ownRecord? settings.defaultBitmap (originAt path.length) = some record := by
    rw [← hrecord, Node.ownRecord?, Node.ownRecord?, henvironment, hsettings, h.settings_eq]
  have hcarried : (node.contentFor (originAt path.length)).records.length
      ≤ (Budget.ofSettings settings).recordRoom (headerLength + payload.length) := by
    rw [hcontent, TelemetryContent.fillChannels, List.length_map, hreports.length]
    exact Nat.min_le_right _ _
  have hbitmap : (node.contentFor (originAt path.length)).header.bitmap = settings.defaultBitmap := by
    rw [hcontent]
    exact hreports.bitmap
  subst hsettings
  rw [← hlength] at hreporting hcarried ⊢
  obtain ⟨extended, hextended, hbears, hlayout⟩ := Node.prepareOutgoing_bears hnode
    (Frame.Reachable.outgoing _ _ _ _).wellFormed rfl h.room_le hreporting hcarried
    (by rw [hbitmap, hown])
  rw [Frame.body_withHeaderRoom] at hbears
  refine ⟨extended, hbears, ?_, hlayout⟩
  rw [hextended, hcontent, hlength]
  exact hreports.extended hrecord

theorem originate_reports (h : station.Ready settings headerLength)
    (hcontrol : settings.initialControl &&& overflowMask = 0)
    (hreporting : settings.Reporting (headerLength + payload.length)) :
    (station.originate payload).Reports settings [station]
      ((Budget.ofSettings settings).recordRoom (headerLength + payload.length)) payload := by
  have hfresh : station.node.contentFor .originator
      = TelemetryContent.fillChannels
          ⟨.fresh settings.subtype settings.initialControl settings.defaultBitmap, []⟩
          station.channel := by
    rw [← h.settings_eq]
    rfl
  exact @send_reports station settings headerLength payload h hreporting station.node
    h.reachable.invariant h.settings_eq rfl [] _ hfresh (.fresh hcontrol)

theorem relay_reports (h : station.Ready settings headerLength)
    (hreporting : settings.Reporting (headerLength + payload.length)) {path : List Station}
    (hpath : path ≠ []) {sent : Frame}
    (hsent : sent.Reports settings path
      ((Budget.ofSettings settings).recordRoom (headerLength + payload.length)) payload) :
    (station.relay sent).Reports settings (path ++ [station])
      ((Budget.ofSettings settings).recordRoom (headerLength + payload.length)) payload := by
  obtain ⟨content, hbears, hreports, hlayout⟩ := hsent
  have hinvariant := h.reachable.invariant
  have hsettings := h.settings_eq
  have hcount : content.records.length ≤ station.node.settings.carrierCapacity := by
    rw [hreports.length, hsettings]
    exact Nat.le_trans (Nat.min_le_right _ _) hreporting.room_le
  obtain ⟨found, next, arrived, heq, rfl, hnext, henvironment, hcontent⟩ :=
    Node.receiveFrame_takes hinvariant h.carrier hbears (hsettings ▸ hreports.subtype)
      (hsettings ▸ hlayout) hcount
  have hreceived : next.Invariant := by
    have hkept := hinvariant.receiveFrame sent.received false
    rw [heq] at hkept
    exact hkept
  have horigin : originAt path.length = .forwarder := by
    cases path with
    | nil => exact absurd rfl hpath
    | cons first others => rfl
  rw [relay, heq, ← horigin]
  rw [← horigin] at hcontent
  exact h.send_reports hreporting hreceived (hnext.trans hsettings) henvironment hcontent hreports

end Station.Ready

theorem reports_lastSent {settings : Settings} {headerLength : Nat} {payload : Bytes}
    {first : Station} {others : List Station}
    (hready : ∀ station ∈ first :: others, station.Ready settings headerLength)
    (hcontrol : settings.initialControl &&& overflowMask = 0)
    (hreporting : settings.Reporting (headerLength + payload.length)) :
    (lastSent first others payload).Reports settings (first :: others)
      ((Budget.ofSettings settings).recordRoom (headerLength + payload.length)) payload := by
  -- Along the path: the last station relays what the ones before it have sent.
  induction others using List.reverseRecOn with
  | nil =>
    have hfirst := hready first List.mem_cons_self
    exact hfirst.originate_reports hcontrol hreporting
  | append_singleton others last ih =>
    have hlast := hready last (by simp)
    have hbefore := ih fun station hmem => hready station (by
      rcases List.mem_cons.mp hmem with rfl | hmem
      · exact List.mem_cons_self
      · exact List.mem_cons_of_mem _ (List.mem_append_left _ hmem))
    rw [lastSent, List.foldl_append]
    exact hlast.relay_reports hreporting (List.cons_ne_nil _ _) hbefore

/-- **The report of a path.** Let every node of a path select itself and let frames have room for
`cap` records. Then the frame that the last of `k` nodes sends holds the records of the first
`min k cap` of them in the order of the path, each filled in by the receivers behind it; the header
counts them, and the overflow flag is set exactly if `k` is more than `cap`. -/
theorem path_report {settings : Settings} {headerLength : Nat} {payload : Bytes}
    {first : Station} {others : List Station}
    (hready : ∀ station ∈ first :: others, station.Ready settings headerLength)
    (hsampling : settings.sampling = .deterministic)
    (hcontrol : settings.initialControl &&& overflowMask = 0)
    (hlimit : settings.frameBudget < maxLength)
    (hfits : headerLength + payload.length + settings.initCost ≤ settings.frameBudget)
    (hcapacity : (settings.frameBudget - settings.initCost - (headerLength + payload.length))
      / settings.recordSize ≤ settings.carrierCapacity) :
    ∃ content cap,
      cap = (settings.frameBudget - settings.initCost - (headerLength + payload.length))
        / settings.recordSize ∧
      (lastSent first others payload).Bears content payload ∧
      readTelemetry settings (lastSent first others payload).received.data
        = .ok (some (content, content.elements.length)) ∧
      content.Reports settings (first :: others) cap := by
  obtain ⟨content, hbears, hreports, hlayout⟩ :=
    reports_lastSent hready hcontrol ⟨hsampling, hlimit, hfits, hcapacity⟩
  have husable : settings.Usable := by
    have hfirst := hready first List.mem_cons_self
    rw [← hfirst.settings_eq]
    exact hfirst.reachable.invariant.usable
  have hencoded : content.encodedLength ≤ maxPayloadContent := by
    apply husable.encodedLength_le hlayout
    rw [hreports.length]
    exact Nat.le_trans (Nat.min_le_right _ _) hcapacity
  refine ⟨content, _, rfl, hbears, ?_, hreports⟩
  rw [Frame.data_received, hbears.body]
  exact readTelemetry_elements husable.recordSize_pos hreports.subtype hlayout hencoded payload

/-- Settings whose frames have room for two records behind a link header of one byte and two bytes of
payload. -/
def twoRecordSettings : Settings := { frameBudget := 26 }

def startedStation (nodeId : UInt16) : Station where
  node :=
    { settings := twoRecordSettings
      environment := { nodeId := nodeId, channel := 11 }
      store := .ofCapacities 32 256 }
  linkHeader := [0x61]
  room := defaultHeaderRoom

theorem path_report_threeStations :
    (∀ station ∈ [startedStation 1, startedStation 2, startedStation 3],
      station.Ready twoRecordSettings 1) ∧
    ∃ content : TelemetryContent,
      (lastSent (startedStation 1) [startedStation 2, startedStation 3] [7, 8]).Bears content [7, 8] ∧
        content.records.length = 2 ∧ content.header.sequence.toNat = 2 ∧
          content.header.isOverflowed = true := by
  have hstarted : ∀ nodeId : UInt16,
      bitmapSelects twoRecordSettings.defaultBitmap nodeId = true →
        (startedStation nodeId).Ready twoRecordSettings 1 := by
    intro nodeId hselected
    have hroom : twoRecordSettings.frameBudget ≤ defaultHeaderRoom := by decide
    exact ⟨@Node.Reachable.start twoRecordSettings _ _ rfl, rfl, rfl, hselected, rfl, hroom⟩
  have hready : ∀ station ∈ [startedStation 1, startedStation 2, startedStation 3],
      station.Ready twoRecordSettings 1 := by
    intro station hmem
    simp only [List.mem_cons, List.not_mem_nil, or_false] at hmem
    rcases hmem with rfl | rfl | rfl
    · exact hstarted 1 (by decide)
    · exact hstarted 2 (by decide)
    · exact hstarted 3 (by decide)
  obtain ⟨content, cap, hcap, hbears, _, hreports⟩ := @path_report _ _ [7, 8] _ _ hready rfl rfl
    (by decide) (by decide) (by decide)
  obtain rfl : cap = 2 := hcap
  refine ⟨hready, content, hbears, hreports.length, hreports.sequence, ?_⟩
  exact hreports.overflow.mpr (by decide)

end MeshTelemetry
