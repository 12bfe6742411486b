import MeshTelemetry.Message.Traffic
import MeshTelemetry.Proofs.Message.Reachable
import MeshTelemetry.Proofs.Message.RoundTrip

/-!
# The ledger of the codec

What the traffic counters say about the calls that were made. Every counter goes up by one for the
calls of one sort and stays for all others, whatever it stood at before; so the change over a run is
the number of calls of that sort, modulo the width of the counters, and equations between counters
are equations between sorts of calls. That blocks are received as they are sent needs more than
counting: the reader has to find a block in the written bytes exactly where the writer has put one.
-/

namespace MeshTelemetry

/-- Whether a reader of the bytes meets a telemetry block. -/
def holdsBlock (bytes : Bytes) : Bool :=
  ((Message.decodeWithTelemetry bytes).toOption.bind Prod.snd).isSome

namespace CodecCall

@[simp] def isEncode : CodecCall → Bool
  | .encode _ _ => true
  | .decode _ => false

@[simp] def isDecode : CodecCall → Bool
  | .encode _ _ => false
  | .decode _ => true

/-- The bytes that came out of a call to write. -/
def output? : CodecCall → Option Bytes
  | .encode message block => (message.encodeWith block).toOption
  | .decode _ => none

/-- The bytes that went into a call to read. -/
def input? : CodecCall → Option Bytes
  | .encode _ _ => none
  | .decode bytes => some bytes

/-- The kind of the message that was written or read, if the call succeeded. -/
def kind? : CodecCall → Option MessageKind
  | .encode message block => (message.encodeWith block).toOption.map fun _ => message.kind
  | .decode bytes => (Message.decode bytes).toOption.map Message.kind

/-- The call wrote a message with a code and was given a block to go with it. -/
@[simp] def offersBlock : CodecCall → Bool
  | .encode message (some block) =>
    (message.encodeWith (some block)).toOption.isSome && !message.isEmpty
  | .encode _ none => false
  | .decode _ => false

@[simp] def sendsBlock : CodecCall → Bool
  | .encode message (some block) =>
    (message.encodeWith (some block)).toOption.isSome && !message.isEmpty
      && message.takesBlock block
  | .encode _ none => false
  | .decode _ => false

@[simp] def meetsBlock : CodecCall → Bool
  | .encode _ _ => false
  | .decode bytes => holdsBlock bytes

theorem offersBlock_of_sendsBlock {call : CodecCall} (h : call.sendsBlock = true) :
    call.offersBlock = true := by
  cases call with
  | decode bytes => cases h
  | encode message block =>
    cases block with
    | none => cases h
    | some block =>
      rw [sendsBlock, Bool.and_eq_true] at h
      exact h.1

theorem any_holdsBlock_input? (call : CodecCall) :
    call.input?.any holdsBlock = call.meetsBlock := by
  cases call <;> rfl

/-- A header alone holds no block. -/
theorem holdsBlock_of_isEmpty {message : Message} (hempty : message.isEmpty = true)
    {block : Option Bytes} {bytes : Bytes} (h : message.encodeWith block = .ok bytes) :
    holdsBlock bytes = false := by
  have hbytes := message.encodeWith_of_isEmpty hempty block
  rw [h, Except.ok.injEq] at hbytes
  rw [holdsBlock, hbytes, Message.decodeWithTelemetry_header]
  rfl

theorem holdsBlock_of_encodeWith {message : Message} (hreachable : message.Reachable)
    (huri : message.proxyUri = none) (hscheme : message.proxyScheme = none)
    (hcode : message.isEmpty = false) {block : Option Bytes} {bytes : Bytes}
    (h : message.encodeWith block = .ok bytes) :
    holdsBlock bytes = (message.sentBlock block).isSome := by
  have hlimits := hreachable.withinLimits
  rw [holdsBlock, Message.decodeWithTelemetry_encodeWith hlimits hcode huri hscheme h]
  rfl

/-- A reader finds a block in what was written exactly if the writer put one there. -/
theorem any_holdsBlock_output? {call : CodecCall}
    (hcall : ∀ message block, call = .encode message block →
      message.Reachable ∧ message.proxyUri = none ∧ message.proxyScheme = none) :
    call.output?.any holdsBlock = call.sendsBlock := by
  cases call with
  | decode bytes => rfl
  | encode message block =>
    obtain ⟨hreachable, huri, hscheme⟩ := hcall message block rfl
    cases hwritten : message.encodeWith block with
    | error err => cases block <;> simp [output?, hwritten, Except.toOption]
    | ok bytes =>
      have hany : (CodecCall.encode message block).output?.any holdsBlock = holdsBlock bytes := by
        simp [output?, hwritten, Except.toOption]
      rw [hany]
      cases hempty : message.isEmpty with
      | true =>
        rw [holdsBlock_of_isEmpty hempty hwritten]
        cases block <;> simp [hempty]
      | false =>
        rw [holdsBlock_of_encodeWith hreachable huri hscheme hempty hwritten]
        cases block with
        | none => rfl
        | some block =>
          rw [Message.sentBlock_some]
          by_cases htakes : message.takesBlock block = true
          · simp [hwritten, hempty, htakes, Except.toOption]
          · simp [htakes]

end CodecCall

namespace Traffic

def ofKind (traffic : Traffic) : MessageKind → UInt64
  | .confirmable => traffic.confirmable
  | .nonConfirmable => traffic.nonConfirmable
  | .acknowledgement => traffic.acknowledgement
  | .reset => traffic.reset

/-- By how much each counter has changed, modulo `2 ^ 64`. -/
def since (after before : Traffic) : Traffic where
  encoded := after.encoded - before.encoded
  decoded := after.decoded - before.decoded
  encodeErrors := after.encodeErrors - before.encodeErrors
  decodeErrors := after.decodeErrors - before.decodeErrors
  confirmable := after.confirmable - before.confirmable
  nonConfirmable := after.nonConfirmable - before.nonConfirmable
  acknowledgement := after.acknowledgement - before.acknowledgement
  reset := after.reset - before.reset
  blocksSent := after.blocksSent - before.blocksSent
  blocksReceived := after.blocksReceived - before.blocksReceived
  blocksSkipped := after.blocksSkipped - before.blocksSkipped

theorem countKind_eq (traffic : Traffic) (kind : MessageKind) :
    traffic.countKind kind =
      { traffic with
        confirmable := traffic.confirmable + (some kind == some .confirmable).toUInt64
        nonConfirmable := traffic.nonConfirmable + (some kind == some .nonConfirmable).toUInt64
        acknowledgement := traffic.acknowledgement + (some kind == some .acknowledgement).toUInt64
        reset := traffic.reset + (some kind == some .reset).toUInt64 } := by
  cases kind <;> simp [countKind, Bool.toUInt64]

theorem countOffer_eq (traffic : Traffic) {message : Message} {block : Option Bytes} {bytes : Bytes}
    (h : message.encodeWith block = .ok bytes) :
    let call := CodecCall.encode message block
    traffic.countOffer message block =
      { traffic with
        blocksSent := traffic.blocksSent + call.sendsBlock.toUInt64
        blocksSkipped :=
          traffic.blocksSkipped + (call.offersBlock && !call.sendsBlock).toUInt64 } := by
  intro call
  cases block with
  | none => simp [countOffer, call, Bool.toUInt64]
  | some block =>
    cases hempty : message.isEmpty <;> cases htakes : message.takesBlock block <;>
      simp [countOffer, call, Bool.toUInt64, h, hempty, htakes, Except.toOption]

/-- Everything that a call does to the counters. -/
theorem count_eq (traffic : Traffic) (call : CodecCall) :
    traffic.count call =
      { encoded := traffic.encoded + (call.isEncode && call.kind?.isSome).toUInt64
        decoded := traffic.decoded + (call.isDecode && call.kind?.isSome).toUInt64
        encodeErrors := traffic.encodeErrors + (call.isEncode && call.kind?.isNone).toUInt64
        decodeErrors := traffic.decodeErrors + (call.isDecode && call.kind?.isNone).toUInt64
        confirmable := traffic.confirmable + (call.kind? == some .confirmable).toUInt64
        nonConfirmable := traffic.nonConfirmable + (call.kind? == some .nonConfirmable).toUInt64
        acknowledgement := traffic.acknowledgement + (call.kind? == some .acknowledgement).toUInt64
        reset := traffic.reset + (call.kind? == some .reset).toUInt64
        blocksSent := traffic.blocksSent + call.sendsBlock.toUInt64
        blocksReceived := traffic.blocksReceived + call.meetsBlock.toUInt64
        blocksSkipped :=
          traffic.blocksSkipped + (call.offersBlock && !call.sendsBlock).toUInt64 } := by
  cases call with
  | decode bytes =>
    cases hread : Message.decodeWithTelemetry bytes with
    | error err =>
      have hkind : (CodecCall.decode bytes).kind? = none := by
        rw [CodecCall.kind?, Message.decode_eq_error_of_decodeWithTelemetry hread]
        rfl
      have hmeets : holdsBlock bytes = false := by
        rw [holdsBlock, hread]
        rfl
      rw [hkind, count, countDecode, hread]
      simp [hmeets, Bool.toUInt64]
    | ok read =>
      obtain ⟨message, block⟩ := read
      have hkind : (CodecCall.decode bytes).kind? = some message.kind := by
        rw [CodecCall.kind?, Message.decode_eq_of_decodeWithTelemetry hread]
        rfl
      have hmeets : holdsBlock bytes = block.isSome := by
        rw [holdsBlock, hread]
        rfl
      rw [hkind, count, countDecode, hread]
      simp [countKind_eq, hmeets, Bool.toUInt64]
  | encode message block =>
    cases hwritten : message.encodeWith block with
    | error err =>
      have hkind : (CodecCall.encode message block).kind? = none := by
        rw [CodecCall.kind?, hwritten]
        rfl
      rw [hkind, count, countEncode, hwritten]
      cases block <;> simp [hwritten, Except.toOption, Bool.toUInt64]
    | ok bytes =>
      have hkind : (CodecCall.encode message block).kind? = some message.kind := by
        rw [CodecCall.kind?, hwritten]
        rfl
      rw [hkind, count, countEncode, hwritten]
      simp only [countKind_eq, countOffer_eq traffic hwritten]
      simp [Bool.toUInt64]

/-- The counter goes up by one for the calls of one sort, and not otherwise. -/
def Counts (counter : Traffic → UInt64) (sort : CodecCall → Bool) : Prop :=
  ∀ traffic call, counter (traffic.count call) = counter traffic + (sort call).toUInt64

variable {counter other : Traffic → UInt64} {sort sort' union : CodecCall → Bool}

theorem Counts.add (h : Counts counter sort) (hother : Counts other sort')
    (hunion : ∀ call, (sort call).toUInt64 + (sort' call).toUInt64 = (union call).toUInt64) :
    Counts (fun traffic => counter traffic + other traffic) union := by
  intro traffic call
  calc counter (traffic.count call) + other (traffic.count call)
      = (counter traffic + (sort call).toUInt64) + (other traffic + (sort' call).toUInt64) := by
        rw [h traffic call, hother traffic call]
    _ = (counter traffic + other traffic) + ((sort call).toUInt64 + (sort' call).toUInt64) := by
        ac_rfl
    _ = counter traffic + other traffic + (union call).toUInt64 := by rw [hunion call]

/-- What one call adds, a run of calls adds up. -/
theorem Counts.countAll (h : Counts counter sort) (traffic : Traffic) (calls : List CodecCall) :
    counter (traffic.countAll calls) = counter traffic + UInt64.ofNat (calls.countP sort) := by
  induction calls generalizing traffic with
  | nil => exact (UInt64.add_zero _).symm
  | cons call calls ih =>
    have hcons : (sort call).toUInt64 + UInt64.ofNat (calls.countP sort)
        = UInt64.ofNat ((call :: calls).countP sort) := by
      cases hsort : sort call
      · rw [List.countP_cons_of_neg (by simp [hsort])]
        exact UInt64.zero_add _
      · rw [List.countP_cons_of_pos hsort, UInt64.ofNat_add]
        exact UInt64.add_comm _ _
    calc counter ((traffic.count call).countAll calls)
        = counter (traffic.count call) + UInt64.ofNat (calls.countP sort) := ih _
      _ = counter traffic + ((sort call).toUInt64 + UInt64.ofNat (calls.countP sort)) := by
          rw [h traffic call, UInt64.add_assoc]
      _ = counter traffic + UInt64.ofNat ((call :: calls).countP sort) := by rw [hcons]

theorem since_self (traffic : Traffic) : traffic.since traffic = {} := by simp [since]

theorem since_count (traffic before : Traffic) (call : CodecCall) :
    (traffic.count call).since before = (traffic.since before).count call := by
  have hcomm : ∀ a b c : UInt64, a + b - c = a - c + b := by
    intro a b c
    rw [UInt64.sub_eq_add_neg, UInt64.sub_eq_add_neg]
    ac_rfl
  rw [count_eq, count_eq]
  simp only [since, hcomm]

theorem since_countAll (traffic before : Traffic) (calls : List CodecCall) :
    (traffic.countAll calls).since before = (traffic.since before).countAll calls := by
  induction calls generalizing traffic with
  | nil => rfl
  | cons call calls ih =>
    calc ((traffic.count call).countAll calls).since before
        = ((traffic.count call).since before).countAll calls := ih _
      _ = ((traffic.since before).count call).countAll calls := by rw [since_count]

/-- A counter that starts at zero changes by the number of calls of its sort, wherever it stood. -/
theorem Counts.since_countAll (h : Counts counter sort) (hzero : counter {} = 0)
    (traffic : Traffic) (calls : List CodecCall) :
    counter ((traffic.countAll calls).since traffic) = UInt64.ofNat (calls.countP sort) := by
  rw [Traffic.since_countAll, since_self, h.countAll, hzero, UInt64.zero_add]

theorem counts_encoded :
    Counts Traffic.encoded fun call => call.isEncode && call.kind?.isSome := by
  intro traffic call
  rw [count_eq]

theorem counts_decoded :
    Counts Traffic.decoded fun call => call.isDecode && call.kind?.isSome := by
  intro traffic call
  rw [count_eq]

theorem counts_encodeErrors :
    Counts Traffic.encodeErrors fun call => call.isEncode && call.kind?.isNone := by
  intro traffic call
  rw [count_eq]

theorem counts_decodeErrors :
    Counts Traffic.decodeErrors fun call => call.isDecode && call.kind?.isNone := by
  intro traffic call
  rw [count_eq]

theorem counts_ofKind (kind : MessageKind) :
    Counts (fun traffic => traffic.ofKind kind) fun call => call.kind? == some kind := by
  intro traffic call
  rw [count_eq]
  cases kind <;> rfl

theorem counts_blocksSent : Counts Traffic.blocksSent CodecCall.sendsBlock := by
  intro traffic call
  rw [count_eq]

theorem counts_blocksReceived : Counts Traffic.blocksReceived CodecCall.meetsBlock := by
  intro traffic call
  rw [count_eq]

theorem counts_blocksSkipped :
    Counts Traffic.blocksSkipped fun call => call.offersBlock && !call.sendsBlock := by
  intro traffic call
  rw [count_eq]

theorem counts_encodes :
    Counts (fun traffic => traffic.encoded + traffic.encodeErrors) CodecCall.isEncode := by
  apply counts_encoded.add counts_encodeErrors
  intro call
  cases call.isEncode <;> cases call.kind? <;> rfl

theorem counts_decodes :
    Counts (fun traffic => traffic.decoded + traffic.decodeErrors) CodecCall.isDecode := by
  apply counts_decoded.add counts_decodeErrors
  intro call
  cases call.isDecode <;> cases call.kind? <;> rfl

theorem counts_successes :
    Counts (fun traffic => traffic.encoded + traffic.decoded) fun call => call.kind?.isSome := by
  apply counts_encoded.add counts_decoded
  intro call
  cases call <;> simp only [CodecCall.isEncode, CodecCall.isDecode, Bool.true_and, Bool.false_and,
    Bool.toUInt64, Bool.false_eq_true, if_false, UInt64.add_zero, UInt64.zero_add]

/-- A message has one of the four kinds and no two. -/
theorem counts_kinds :
    Counts (fun traffic => traffic.confirmable + traffic.nonConfirmable + traffic.acknowledgement
      + traffic.reset) fun call => call.kind?.isSome := by
  have htwo : Counts (fun traffic => traffic.confirmable + traffic.nonConfirmable)
      fun call => call.kind? == some .confirmable || call.kind? == some .nonConfirmable := by
    apply (counts_ofKind .confirmable).add (counts_ofKind .nonConfirmable)
    intro call
    rcases call.kind? with _ | kind <;> [rfl; cases kind <;> rfl]
  have hthree : Counts
      (fun traffic => traffic.confirmable + traffic.nonConfirmable + traffic.acknowledgement)
      fun call => call.kind?.isSome && call.kind? != some .reset := by
    apply htwo.add (counts_ofKind .acknowledgement)
    intro call
    rcases call.kind? with _ | kind <;> [rfl; cases kind <;> rfl]
  apply hthree.add (counts_ofKind .reset)
  intro call
  rcases call.kind? with _ | kind <;> [rfl; cases kind <;> rfl]

theorem counts_offers :
    Counts (fun traffic => traffic.blocksSent + traffic.blocksSkipped) CodecCall.offersBlock := by
  apply counts_blocksSent.add counts_blocksSkipped
  intro call
  cases hsends : call.sendsBlock
  · rw [Bool.not_false, Bool.and_true]
    exact UInt64.zero_add _
  · rw [Bool.not_true, Bool.and_false, CodecCall.offersBlock_of_sendsBlock hsends]
    rfl

/-- The calls to read took what the calls to write put out, each output once. -/
def Loopback (calls : List CodecCall) : Prop :=
  (calls.filterMap CodecCall.input?).Perm (calls.filterMap CodecCall.output?)

theorem countP_meetsBlock_eq_countP_sendsBlock {calls : List CodecCall}
    (hmessages : ∀ message block, CodecCall.encode message block ∈ calls →
      message.Reachable ∧ message.proxyUri = none ∧ message.proxyScheme = none)
    (hloop : Loopback calls) :
    calls.countP CodecCall.meetsBlock = calls.countP CodecCall.sendsBlock := by
  have hfilterMap : ∀ bytes? : CodecCall → Option Bytes, (calls.filterMap bytes?).countP holdsBlock
      = calls.countP fun call => (bytes? call).any holdsBlock := by
    intro bytes?
    rw [List.countP_filterMap]
    apply List.countP_congr
    intro call _
    cases bytes? call <;> rfl
  calc calls.countP CodecCall.meetsBlock
      = calls.countP fun call => call.input?.any holdsBlock := by
        simp only [CodecCall.any_holdsBlock_input?]
    _ = (calls.filterMap CodecCall.input?).countP holdsBlock := (hfilterMap _).symm
    _ = (calls.filterMap CodecCall.output?).countP holdsBlock := hloop.countP_eq holdsBlock
    _ = calls.countP fun call => call.output?.any holdsBlock := hfilterMap _
    _ = calls.countP CodecCall.sendsBlock := by
        apply List.countP_congr
        intro call hmem
        rw [CodecCall.any_holdsBlock_output?]
        rintro message block rfl
        exact hmessages message block hmem

/-- What the changes of the counters over a run say about its calls. -/
structure Ledger (gain : Traffic) (calls : List CodecCall) : Prop where
  encodes : gain.encoded + gain.encodeErrors = UInt64.ofNat (calls.countP (·.isEncode))
  decodes : gain.decoded + gain.decodeErrors = UInt64.ofNat (calls.countP (·.isDecode))
  kinds : gain.confirmable + gain.nonConfirmable + gain.acknowledgement + gain.reset
    = gain.encoded + gain.decoded
  ofKind : ∀ kind, gain.ofKind kind = UInt64.ofNat (calls.countP (·.kind? == some kind))
  offers : gain.blocksSent + gain.blocksSkipped = UInt64.ofNat (calls.countP (·.offersBlock))
  blocksReceived : gain.blocksReceived = UInt64.ofNat (calls.countP (·.meetsBlock))

/-- **The ledger of the codec.** However the counters stood before a run of calls, and whatever was
written and read in it, their changes agree with the calls. If what was read is what was written,
each output once, then as many blocks were received as sent. -/
theorem ledger_countAll (traffic : Traffic) (calls : List CodecCall) :
    let gain := (traffic.countAll calls).since traffic
    Ledger gain calls ∧
      ((∀ message block, CodecCall.encode message block ∈ calls →
          message.Reachable ∧ message.proxyUri = none ∧ message.proxyScheme = none) →
        Loopback calls → gain.blocksReceived = gain.blocksSent) := by
  intro gain
  have hsent : gain.blocksSent = UInt64.ofNat (calls.countP (·.sendsBlock)) :=
    counts_blocksSent.since_countAll rfl traffic calls
  have hreceived : gain.blocksReceived = UInt64.ofNat (calls.countP (·.meetsBlock)) :=
    counts_blocksReceived.since_countAll rfl traffic calls
  have hledger : Ledger gain calls :=
    { encodes := counts_encodes.since_countAll rfl traffic calls
      decodes := counts_decodes.since_countAll rfl traffic calls
      kinds := (counts_kinds.since_countAll rfl traffic calls).trans
        (counts_successes.since_countAll rfl traffic calls).symm
      ofKind := fun kind =>
        (counts_ofKind kind).since_countAll (by cases kind <;> rfl) traffic calls
      offers := counts_offers.since_countAll rfl traffic calls
      blocksReceived := hreceived }
  refine ⟨hledger, ?_⟩
  intro hmessages hloop
  rw [hreceived, hsent, countP_meetsBlock_eq_countP_sendsBlock hmessages hloop]

/-- The counter of sent blocks may wrap in the run. -/
theorem ledger_countAll_echo :
    let request : Message := { kind := .confirmable, code := .get, messageId := 7, payload := [1] }
    let calls := [CodecCall.encode request (some [0xAA]), .encode request none,
      .decode [64, 1, 0, 7, 0xFF, 1], .decode [64, 1, 0, 7, 0xFA, 1, 0xAA, 0xFF, 1]]
    let before : Traffic := { blocksSent := 0xFFFFFFFFFFFFFFFF }
    let gain := (before.countAll calls).since before
    request.Reachable ∧ Loopback calls ∧ gain.blocksReceived = gain.blocksSent ∧
      gain.blocksSent = 1 := by
  intro request calls before gain
  have hreachable : request.Reachable := .set (.payload [1]) (.bare .confirmable .get 7)
  have hloop : Loopback calls := by
    rw [Loopback]
    decide +kernel
  have hmessages : ∀ message block, CodecCall.encode message block ∈ calls →
      message.Reachable ∧ message.proxyUri = none ∧ message.proxyScheme = none := by
    intro message block hmem
    have hrequest : message = request := by
      simp only [calls, List.mem_cons, CodecCall.encode.injEq, List.not_mem_nil, reduceCtorEq,
        or_false] at hmem
      exact hmem.elim And.left And.left
    rw [hrequest]
    exact ⟨hreachable, rfl, rfl⟩
  have hsent : gain.blocksSent = 1 := by decide +kernel
  exact ⟨hreachable, hloop, (ledger_countAll before calls).2 hmessages hloop, hsent⟩

end Traffic

end MeshTelemetry
