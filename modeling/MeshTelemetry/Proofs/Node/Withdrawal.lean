import MeshTelemetry.Proofs.Message.OfferedBlock
import MeshTelemetry.Proofs.Node.CounterLedger
import MeshTelemetry.Proofs.Node.Piggyback

/-!
# How many records leave

A block is made by looking at the stack and records are taken by popping it, so the two have to agree
on every count: what the block spells is what as many pops would have returned. The number of records
in a message is first a quotient of the room, then a length in bytes and then a quotient again, and
comes out as it went in since the block holds whole records. A message that cannot be written takes
none of them, because the writer fails before it comes to the block.
-/

namespace MeshTelemetry

namespace Node

/-- What so many calls return one after another, and the node that they leave. -/
def takes (node : Node) : Nat → List (Option Record) × Node
  | 0 => ([], node)
  | count + 1 =>
    let (record, next) := node.nextTelemetry
    let (records, final) := next.takes count
    (record :: records, final)

section

variable {node : Node} {carried received : List Record}

/-- As many calls as there are records return these, and taking them at once leaves the same node. -/
theorem takes_eq (h : node.Stores carried received) (count : Nat) :
    ∃ final,
      node.takes (min count received.length) = ((received.take count).map some, final) ∧
        node.commitTelemetry count = (min count received.length, final) := by
  induction count generalizing node received with
  | zero =>
    refine ⟨node, ?_, ?_⟩
    · rw [Nat.zero_min, takes, List.take_zero, List.map_nil]
    · rw [Nat.zero_min, commitTelemetry]
  | succ count ih =>
    cases received with
    | nil =>
      refine ⟨node, rfl, ?_⟩
      rw [commitTelemetry, nextTelemetry_nil h]
      rfl
    | cons record received =>
      obtain ⟨store, hnext, hstores⟩ := nextTelemetry_cons h
      obtain ⟨final, htakes, hcommit⟩ := @ih { node with
        store := store
        counters.recordsConsumed := node.counters.recordsConsumed + 1 } _ hstores
      refine ⟨final, ?_, ?_⟩
      · rw [List.length_cons, Nat.add_min_add_right, takes, hnext]
        simp only [htakes, List.take_succ_cons, List.map_cons]
      · rw [List.length_cons, Nat.add_min_add_right, commitTelemetry, hnext]
        simp only [hcommit]

/-- The number of records that leave with the message. -/
def leaving (node : Node) (message : Message) : Nat := min node.pending (node.piggybackCount message)

theorem block_div (h : node.Invariant) (message : Message) :
    (node.telemetryBlock (node.piggybackCount message)).length / node.settings.recordSize
      = node.leaving message := by
  rw [telemetryBlock_div h, leaving, h.stores.pending_eq, Nat.min_comm]

theorem block_eq_nil_iff (h : node.Invariant) (message : Message) :
    node.telemetryBlock (node.piggybackCount message) = [] ↔ node.leaving message = 0 := by
  rw [telemetryBlock_eq_nil_iff h, ← List.length_eq_zero_iff, List.length_take, leaving,
    h.stores.pending_eq, Nat.min_comm]

theorem encodeWithPending_of_none (h : node.Invariant) {message : Message}
    (hnone : node.leaving message = 0) :
    node.encodeWithPending message = (message.encode, node) := by
  have hempty := List.isEmpty_iff.mpr ((block_eq_nil_iff h message).mpr hnone)
  exact if_pos hempty

/-- The records are taken once the message is written with them. -/
theorem encodeWithPending_of_some (h : node.Invariant) {message : Message} {bytes : Bytes}
    (hsome : node.leaving message ≠ 0)
    (hwritten : message.encodeWith (some (node.telemetryBlock (node.piggybackCount message)))
      = .ok bytes) :
    node.encodeWithPending message
      = (.ok bytes, (node.commitTelemetry (node.leaving message)).2) := by
  have hempty : ¬ (node.telemetryBlock (node.piggybackCount message)).isEmpty = true := by
    rwa [List.isEmpty_iff, block_eq_nil_iff h]
  rw [encodeWithPending, if_neg hempty, hwritten, block_div h]

/-- A message that cannot be written takes nothing. -/
theorem encodeWithPending_of_error {message : Message} {err : CodecError}
    (hencode : message.encode = .error err) :
    node.encodeWithPending message = (.error err, node) := by
  by_cases hempty : (node.telemetryBlock (node.piggybackCount message)).isEmpty = true
  · rw [encodeWithPending, if_pos hempty, hencode]
  · rw [encodeWithPending, if_neg hempty, Message.encodeWith_eq_error_of_other hencode]

/-- A message that can be written is written with the records that leave. -/
theorem exists_encodeWithPending (h : node.Invariant) {message : Message} {plain : Bytes}
    (hencode : message.encode = .ok plain) :
    ∃ bytes, node.encodeWithPending message
        = (.ok bytes, (node.commitTelemetry (node.leaving message)).2) ∧
      (node.leaving message = 0 → bytes = plain) := by
  by_cases hnone : node.leaving message = 0
  · rw [encodeWithPending_of_none h hnone, hencode, hnone]
    exact ⟨plain, rfl, fun _ => rfl⟩
  · cases hwritten : message.encodeWith
        (some (node.telemetryBlock (node.piggybackCount message))) with
    | error err =>
      rw [Message.encode, Message.encodeWith_eq_error_of_other hwritten] at hencode
      cases hencode
    | ok bytes =>
      exact ⟨bytes, encodeWithPending_of_some h hnone hwritten, fun hzero => absurd hzero hnone⟩

/-- Beside its payload, a message that starts an exchange has room up to 51 bytes, and records may
take 50 bytes of a message at most. -/
theorem leaving_eq (node : Node) (message : Message) :
    node.leaving message
      = min node.pending
          (min
            ((if message.kind = .confirmable ∨ message.kind = .nonConfirmable then
                51 - message.payload.length
              else 0) / node.settings.recordSize)
            (50 / node.settings.recordSize)) := by
  have hroom : min (maxPayloadLength - (message.payload.length + 2 + compressionMargin)) 255
      = 51 - message.payload.length := by
    simp only [maxPayloadLength, compressionMargin]
    omega
  rw [leaving, piggybackCount, Message.telemetryRoom, hroom]
  cases message.kind with
  | confirmable | nonConfirmable | acknowledgement | reset => rfl

/-- Taking the newest records one by one leaves the others, and all else but the count of records
taken. -/
theorem commitTelemetry_eq_takes (h : node.Invariant) {count : Nat} (hcount : count ≤ node.pending) :
    ∃ next, (node.commitTelemetry count).2 = next ∧ next = (node.takes count).2 ∧
      next.receivedRecords = node.receivedRecords.drop count ∧
      next.pending + count = node.pending ∧
      next.counters
        = { node.counters with recordsConsumed := node.counters.recordsConsumed + count } := by
  have hpending := h.stores.pending_eq
  have hmin : min count node.receivedRecords.length = count := by omega
  obtain ⟨final, htakes, hcommit⟩ := takes_eq h.stores count
  obtain ⟨store, heq, hstores⟩ := commitTelemetry_spec h.stores count
  rw [hmin] at htakes hcommit heq
  have hfinal : final = { node with
      store := store
      counters.recordsConsumed := node.counters.recordsConsumed + count } :=
    congrArg Prod.snd (hcommit.symm.trans heq)
  refine ⟨final, congrArg Prod.snd hcommit, congrArg Prod.snd htakes.symm, ?_, ?_, ?_⟩
  · rw [hfinal]
    exact hstores.consumptionRecords_eq
  · have hleft := hstores.consumptionLength_eq
    rw [List.length_drop] at hleft
    rw [hfinal, pending, hleft]
    omega
  · rw [hfinal]

end

/-- **What leaves with a message, and what leaves one by one.** A message is written with as many of
the newest records as there are, as its room holds and as a message may hold, and exactly these are
taken. If it cannot be written, that is for a reason of its own, and nothing is taken. What
a block spells is what as many calls would have returned, in their order, and taking so many at once
leaves the node that these calls leave. -/
theorem encodeWithPending_takes {node : Node} (hnode : node.Reachable) :
    (∀ message : Message,
      let room :=
        if message.kind = .confirmable ∨ message.kind = .nonConfirmable then
          51 - message.payload.length
        else 0
      let size := node.settings.recordSize
      let taken := min node.pending (min (room / size) (50 / size))
      (∀ err, (node.encodeWithPending message).1 = .error err ↔ message.encode = .error err) ∧
        (∀ err next, node.encodeWithPending message = (.error err, next) → next = node) ∧
          ∀ bytes next, node.encodeWithPending message = (.ok bytes, next) →
            next = (node.takes taken).2 ∧
              next.receivedRecords = node.receivedRecords.drop taken ∧
              next.pending + taken = node.pending ∧
              next.counters
                = { node.counters with
                    recordsConsumed := node.counters.recordsConsumed + taken } ∧
              (taken = 0 → message.encode = .ok bytes)) ∧
      ∀ count, ∃ (records : List Record) (final : Node),
        node.takes (min count node.pending) = (records.map some, final) ∧
          node.telemetryBlock count = records.flatMap Record.encode ∧
            node.commitTelemetry count = (min count node.pending, final) := by
  have hinvariant := hnode.invariant
  refine ⟨?_, ?_⟩
  · intro message room size taken
    have htaken : node.leaving message = taken := node.leaving_eq message
    cases hencode : message.encode with
    | error reason =>
      rw [encodeWithPending_of_error hencode]
      refine ⟨fun err => Iff.rfl, ?_, ?_⟩
      · rintro err next ⟨⟩
        rfl
      · rintro bytes next ⟨⟩
    | ok plain =>
      obtain ⟨written, hwritten, hplain⟩ := exists_encodeWithPending hinvariant hencode
      rw [hwritten]
      refine ⟨fun err => ⟨nofun, nofun⟩, ?_, ?_⟩
      · intro err next heq
        cases congrArg Prod.fst heq
      · rintro bytes next ⟨⟩
        rw [htaken] at hplain ⊢
        obtain ⟨next, hnext, htakes, hleft, hpending, hcounters⟩ :=
          commitTelemetry_eq_takes hinvariant (Nat.min_le_left _ _ : taken ≤ node.pending)
        rw [hnext]
        refine ⟨htakes, hleft, hpending, hcounters, ?_⟩
        intro hzero
        rw [hplain hzero]
  · intro count
    obtain ⟨final, htakes, hcommit⟩ := takes_eq hinvariant.stores count
    rw [← hinvariant.stores.pending_eq] at htakes hcommit
    exact ⟨_, final, htakes, rfl, hcommit⟩

/-- Beside a payload of 46 bytes there is room for one sample and no byte more. -/
theorem encodeWithPending_takes_tightRequest :
    let message : Message :=
      { kind := .confirmable, code := .get, messageId := 1, payload := .replicate 46 7 }
    ∃ bytes next, oneReceived.Reachable ∧ oneReceived.pending = 1 ∧
      oneReceived.encodeWithPending message = (.ok bytes, next) ∧ next.receivedRecords = [] ∧
        next = (oneReceived.takes 1).2 ∧ oneReceived.telemetryBlock 3 = [10, 0, 0, 1, 196] ∧
          oneReceived.commitTelemetry 3 = (1, next) := by
  intro message
  have hpending : oneReceived.pending = 1 := by decide +kernel
  have hok : (oneReceived.encodeWithPending message).1
      = .ok ([64, 1, 0, 1, 250, 5, 10, 0, 0, 1, 196, 0xFF] ++ .replicate 46 7) := by decide +kernel
  have hcount : min oneReceived.pending
      (min (5 / oneReceived.settings.recordSize) (50 / oneReceived.settings.recordSize)) = 1 := by
    decide +kernel
  obtain ⟨next, hencoded⟩ : ∃ next, oneReceived.encodeWithPending message
      = (.ok ([64, 1, 0, 1, 250, 5, 10, 0, 0, 1, 196, 0xFF] ++ .replicate 46 7), next) :=
    ⟨_, Prod.ext hok rfl⟩
  obtain ⟨hwith, hone⟩ := encodeWithPending_takes reachable_oneReceived
  obtain ⟨_, _, htakes⟩ := hwith message
  obtain ⟨hnext, hleft, _⟩ := htakes _ _ hencoded
  have hroom : (if message.kind = .confirmable ∨ message.kind = .nonConfirmable then
      51 - message.payload.length else 0) = 5 := by decide +kernel
  rw [hroom, hcount] at hnext hleft
  obtain ⟨_, final, htaken, _, hcommit⟩ := hone 3
  rw [hpending] at htaken hcommit
  have hfinal : final = (oneReceived.takes 1).2 := congrArg Prod.snd htaken.symm
  refine ⟨_, next, reachable_oneReceived, hpending, hencoded, ?_, hnext, ?_, ?_⟩
  · rw [hleft, receivedRecords_oneReceived]
    rfl
  · decide +kernel
  · rw [hcommit, hfinal, hnext]
    rfl

end Node

end MeshTelemetry
