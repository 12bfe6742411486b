import MeshTelemetry.Proofs.Message.RoundTrip
import MeshTelemetry.Proofs.Node.Reachable

/-!
# Records that leave in a message

The count of records is chosen so that their block fits the room of the message, and the block tells
how many to take once it is written. So what is taken is what was written, as long as the writer
gets to the block. It does not for the empty code, which is its header alone whatever room its kind
and payload leave: then records are taken that no message holds.
-/

namespace MeshTelemetry

namespace Node

/-- A reader finds exactly these records in the message, or no block if there are none. -/
def HoldsRecords (bytes : Bytes) (records : List Record) : Prop :=
  ∃ message, Message.decodeWithTelemetry bytes
    = .ok (message, if records = [] then none else some (records.flatMap Record.encode))

variable {node : Node} {message : Message}

theorem takesBlock_telemetryBlock (h : node.Invariant) (message : Message) :
    message.takesBlock (node.telemetryBlock (node.piggybackCount message)) = true := by
  rw [Message.takesBlock_iff, length_telemetryBlock h]
  calc min (node.piggybackCount message) node.receivedRecords.length * node.settings.recordSize
      ≤ message.telemetryRoom / node.settings.recordSize * node.settings.recordSize := by
        refine Nat.mul_le_mul_right _ ?_
        unfold piggybackCount
        omega
    _ ≤ message.telemetryRoom := Nat.div_mul_le_self _ _

/-- What is written is the message with the block, be the block empty or not, and what is taken is
the records of the block. -/
theorem encodeWithPending_ok {bytes : Bytes} {next : Node} (hnode : node.Invariant)
    (h : node.encodeWithPending message = (.ok bytes, next)) :
    next.receivedRecords = node.receivedRecords.drop (node.piggybackCount message) ∧
      message.encodeWith
        (if node.receivedRecords.take (node.piggybackCount message) = [] then none
          else some ((node.receivedRecords.take (node.piggybackCount message)).flatMap
            Record.encode)) = .ok bytes := by
  have hblock := telemetryBlock_eq_nil_iff hnode (node.piggybackCount message)
  unfold encodeWithPending at h
  simp only [List.isEmpty_iff] at h
  split at h
  · rename_i hempty
    have htake := hblock.mp hempty
    obtain ⟨hencode, rfl⟩ := Prod.mk.inj h
    refine ⟨?_, ?_⟩
    · rcases List.take_eq_nil_iff.mp htake with hzero | hnil
      · rw [hzero, List.drop_zero]
      · rw [hnil, List.drop_nil]
    · rw [if_pos htake]
      exact hencode
  · rename_i hempty
    split at h
    · cases h
    · rename_i written hwritten
      obtain ⟨hbytes, hcommit⟩ := Prod.mk.inj h
      cases hbytes
      obtain ⟨store, heq, hstores⟩ := commitTelemetry_spec hnode.stores
        (min (node.piggybackCount message) node.receivedRecords.length)
      rw [telemetryBlock_div hnode, heq] at hcommit
      refine ⟨?_, ?_⟩
      · rw [← hcommit, receivedRecords, hstores.consumptionRecords_eq,
          ← List.drop_eq_drop_min]
      · rw [if_neg fun htake => hempty (hblock.mpr htake)]
        exact hwritten

/-- A header alone holds no record. -/
theorem holdsRecords_header_iff (kind : MessageKind) (messageId : UInt16) {records : List Record} :
    HoldsRecords [UInt8.ofNat (64 + kind.bits * 16), 0,
      UInt8.ofNat (messageId.toNat / 256), UInt8.ofNat messageId.toNat] records ↔
      records = [] := by
  have hread := Message.decodeWithTelemetry_header kind messageId
  constructor
  · rintro ⟨found, hfound⟩
    rw [hread, Except.ok.injEq, Prod.mk.injEq] at hfound
    by_contra hsome
    rw [if_neg hsome] at hfound
    cases hfound.2
  · rintro rfl
    exact ⟨_, hread⟩

/-- A message with a code holds the records that it was written with. -/
theorem holdsRecords_of_encodeWith {records : List Record} {bytes : Bytes}
    (hmessage : message.WithinLimits) (hcode : message.isEmpty = false)
    (huri : message.proxyUri = none) (hscheme : message.proxyScheme = none)
    (htakes : message.takesBlock (records.flatMap Record.encode) = true)
    (h : message.encodeWith
      (if records = [] then none else some (records.flatMap Record.encode)) = .ok bytes) :
    HoldsRecords bytes records := by
  refine ⟨message, ?_⟩
  rw [Message.decodeWithTelemetry_encodeWith hmessage hcode huri hscheme h]
  split
  · rfl
  · rw [Message.sentBlock_some, if_pos htakes]

/-- **Records taken and records written.** When a message was written, the newest records have left
the queue and the others stay in their order. The message holds exactly the records that left,
unless its code is empty and there are any. -/
theorem encodeWithPending_conserves_iff (hnode : node.Reachable) (hmessage : message.Reachable)
    (huri : message.proxyUri = none) (hscheme : message.proxyScheme = none) {bytes : Bytes}
    {next : Node} (h : node.encodeWithPending message = (.ok bytes, next)) :
    ∃ removed, removed = node.receivedRecords.take (node.piggybackCount message) ∧
      node.receivedRecords = removed ++ next.receivedRecords ∧
        (HoldsRecords bytes removed ↔ message.isEmpty = false ∨ removed = []) := by
  have hinvariant := hnode.invariant
  obtain ⟨hnext, hencode⟩ := encodeWithPending_ok hinvariant h
  refine ⟨_, rfl, ?_, ?_⟩
  · rw [hnext, List.take_append_drop]
  · cases hempty : message.isEmpty with
    | false =>
      have htakes := takesBlock_telemetryBlock hinvariant message
      exact iff_of_true
        (holdsRecords_of_encodeWith hmessage.withinLimits hempty huri hscheme htakes hencode)
        (.inl rfl)
    | true =>
      -- The writer has left before it came to the block, and the records are gone all the same.
      rw [Message.encodeWith_of_isEmpty hempty, Except.ok.injEq] at hencode
      rw [← hencode, holdsRecords_header_iff]
      exact ⟨.inr, fun hcase => hcase.resolve_left (by simp)⟩

def oneReceived : Node :=
  Node.perform { settings := {}, environment := { nodeId := 1 }, store := .ofCapacities 32 256 }
    (.receiveFrame
      (.incoming .data [] true
        [0x00, 0x3F, 0x09, 0xA8, 0x2A, 0xA0, 0x01, 0xFF, 0x0A, 0x00, 0x00, 0x01, 0xC4, 0x00, 0xF8])
      true)

theorem reachable_oneReceived : oneReceived.Reachable :=
  .perform _ (@Reachable.start {} { nodeId := 1 } _ rfl)

theorem receivedRecords_oneReceived : oneReceived.receivedRecords = [.sample ⟨10, 0, 256, -60⟩] := by
  decide +kernel

theorem encodeWithPending_request :
    ∃ bytes next,
      oneReceived.encodeWithPending { kind := .confirmable, code := .get, messageId := 1 }
        = (.ok bytes, next) ∧
      next.receivedRecords = [] ∧ HoldsRecords bytes [.sample ⟨10, 0, 256, -60⟩] := by
  have hok : (oneReceived.encodeWithPending
      { kind := .confirmable, code := .get, messageId := 1 }).1
        = .ok [64, 1, 0, 1, 250, 5, 10, 0, 0, 1, 196] := by decide +kernel
  have hcount : oneReceived.piggybackCount
      { kind := .confirmable, code := .get, messageId := 1 } = 10 := by decide +kernel
  obtain ⟨removed, htake, hsplit, hholds⟩ := encodeWithPending_conserves_iff reachable_oneReceived
    (.bare .confirmable .get 1) rfl rfl (Prod.ext hok rfl)
  rw [hcount, receivedRecords_oneReceived] at htake
  subst htake
  rw [receivedRecords_oneReceived] at hsplit
  exact ⟨_, _, Prod.ext hok rfl, by simpa using hsplit, hholds.mpr (.inl rfl)⟩

/-- **A lost record.** An empty message takes the record from the queue and goes out as a header
that does not hold it. -/
theorem encodeWithPending_loses_record :
    ∃ bytes next, oneReceived.Reachable ∧
      oneReceived.encodeWithPending { kind := .confirmable, code := .empty, messageId := 1 }
        = (.ok bytes, next) ∧
      oneReceived.receivedRecords = [.sample ⟨10, 0, 256, -60⟩] ∧ next.receivedRecords = [] ∧
        ¬ HoldsRecords bytes [.sample ⟨10, 0, 256, -60⟩] := by
  have hok : (oneReceived.encodeWithPending
      { kind := .confirmable, code := .empty, messageId := 1 }).1 = .ok [64, 0, 0, 1] := by
    decide +kernel
  have hgone : (oneReceived.encodeWithPending
      { kind := .confirmable, code := .empty, messageId := 1 }).2.receivedRecords = [] := by
    decide +kernel
  refine ⟨_, _, reachable_oneReceived, Prod.ext hok rfl, receivedRecords_oneReceived, hgone, ?_⟩
  intro hholds
  cases (holdsRecords_header_iff .confirmable 1).mp hholds

end Node

end MeshTelemetry
