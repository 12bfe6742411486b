import MeshTelemetry.Proofs.Message.WrittenSize

/-!
# Room for a block

A block may go out with a message that starts an exchange, as long as payload and block fit one chunk
with all that is reserved beside them. The writer compares the length of the block with the room that
is left, and room ends at zero. For a block with bytes the two rules are one. The empty block has
room where there is none, so it goes out with replies, and next to a payload that fills the chunk.

The rule weighs the block against the payload only. What stands before the block was held against its
own limit when the block was not there yet, so the two together can pass that limit.
-/

namespace MeshTelemetry

namespace Message

/-- The rule for blocks. -/
structure HasRoomFor (message : Message) (block : Bytes) : Prop where
  starts : message.kind = .confirmable ∨ message.kind = .nonConfirmable
  fits : message.payload.length + block.length + 2 + compressionMargin ≤ maxPayloadLength

/-- The block goes out in one piece, between what is written before the payload and the payload. -/
def WritesBlock (message : Message) (block : Bytes) : Prop :=
  ∃ region length, length.toNat = block.length ∧
    message.encode = .ok (region ++ message.payloadPart) ∧
      message.encodeWith (some block)
        = .ok (region ++ (telemetryMarker :: length :: block) ++ message.payloadPart)

section

variable {message : Message} {block : Bytes}

/-- What the writer asks is the rule, but for the empty block. -/
theorem takesBlock_iff_hasRoomFor :
    message.takesBlock block = true ↔ message.HasRoomFor block ∨ block = [] := by
  rw [takesBlock_iff, telemetryRoom, ← List.length_eq_zero_iff]
  unfold compressionMargin maxPayloadLength
  constructor
  · intro hroom
    by_cases hnone : block.length = 0
    · exact .inr hnone
    · left
      cases hkind : message.kind.carriesTelemetry with
      | false =>
        rw [if_neg (by simp [hkind])] at hroom
        omega
      | true =>
        rw [if_pos hkind] at hroom
        refine ⟨?_, by unfold compressionMargin maxPayloadLength; omega⟩
        revert hkind
        cases message.kind <;> simp [MessageKind.carriesTelemetry]
  · rintro (⟨hkind, hfits⟩ | hnone)
    · have hcarries : message.kind.carriesTelemetry = true := by
        rcases hkind with hkind | hkind <;> rw [hkind] <;> rfl
      unfold compressionMargin maxPayloadLength at hfits
      rw [if_pos hcarries]
      omega
    · omega

theorem encodeWith_eq_encode_of_isEmpty (hempty : message.isEmpty = true)
    (block : Option Bytes) : message.encodeWith block = message.encode := by
  rw [encode, encodeWith_of_isEmpty hempty, encodeWith_of_isEmpty hempty]

/-- A block that goes out makes a difference. -/
theorem WritesBlock.encodeWith_ne (h : message.WritesBlock block) :
    message.encodeWith (some block) ≠ message.encode := by
  obtain ⟨region, length, _, hplain, hwritten⟩ := h
  rw [hplain, hwritten]
  intro heq
  have hlength := congrArg List.length (Except.ok.inj heq)
  simp only [List.length_append, List.length_cons] at hlength
  omega

theorem writesBlock_of_takesBlock (hcode : message.isEmpty = false) {plain : Bytes}
    (hplain : message.encode = .ok plain) (htakes : message.takesBlock block = true) :
    message.WritesBlock block := by
  obtain ⟨row, _, rfl, hwritten⟩ := encodeWith_of_takesBlock hcode htakes hplain
  have hroom := Nat.le_trans (takesBlock_iff.mp htakes) message.telemetryRoom_le
  refine ⟨message.front row, UInt8.ofNat block.length, ?_, hplain, hwritten⟩
  rw [UInt8.toNat_ofNat_of_lt' (by simp only [UInt8.size]; omega)]

/-- Whatever differs is written, and what is written has been taken. -/
theorem takesBlock_of_encodeWith_ne {written : Bytes}
    (hwritten : message.encodeWith (some block) = .ok written)
    (hne : message.encode ≠ .ok written) :
    message.isEmpty = false ∧ (∃ plain, message.encode = .ok plain) ∧
      message.takesBlock block = true := by
  have hcode : message.isEmpty = false := by
    by_contra hempty
    rw [encodeWith_eq_encode_of_isEmpty (by simpa using hempty)] at hwritten
    exact hne hwritten
  cases hplain : message.encode with
  | error err =>
    rw [encodeWith_eq_error_of_other hplain (some block)] at hwritten
    cases hwritten
  | ok plain =>
    refine ⟨hcode, ⟨plain, rfl⟩, ?_⟩
    by_contra hleft
    rw [encodeWith_of_not_takesBlock hcode hleft hplain, ← hplain] at hwritten
    exact hne hwritten

end

/-- **When a block is written.** It is if the message is written with options at all and there is
room for the block by the rule, or no need of room because the block is empty. What is written with a
block on offer differs from what is written without exactly if the block goes out. -/
theorem writesBlock_iff (message : Message) (block : Bytes) :
    (message.WritesBlock block ↔
      message.isEmpty = false ∧ (∃ plain, message.encode = .ok plain) ∧
        (message.HasRoomFor block ∨ block = [])) ∧
      ((∃ written, message.encodeWith (some block) = .ok written ∧
          message.encode ≠ .ok written) ↔ message.WritesBlock block) := by
  have hdiffers : message.WritesBlock block →
      ∃ written, message.encodeWith (some block) = .ok written ∧
        message.encode ≠ .ok written := by
    intro hwrites
    have hne := hwrites.encodeWith_ne
    obtain ⟨_, _, _, _, hwritten⟩ := hwrites
    exact ⟨_, hwritten, fun hsame => hne (hwritten.trans hsame.symm)⟩
  rw [← takesBlock_iff_hasRoomFor]
  refine ⟨⟨?_, ?_⟩, ⟨?_, hdiffers⟩⟩
  · intro hwrites
    obtain ⟨written, hwritten, hne⟩ := hdiffers hwrites
    exact takesBlock_of_encodeWith_ne hwritten hne
  · rintro ⟨hcode, ⟨plain, hplain⟩, htakes⟩
    exact writesBlock_of_takesBlock hcode hplain htakes
  · rintro ⟨written, hwritten, hne⟩
    obtain ⟨hcode, ⟨plain, hplain⟩, htakes⟩ := takesBlock_of_encodeWith_ne hwritten hne
    exact writesBlock_of_takesBlock hcode hplain htakes

/-- **A block without room.** An acknowledgement takes no telemetry, and the empty block goes out
with it. -/
theorem acknowledgement_writes_empty_block :
    let message : Message := { kind := .acknowledgement, code := .content, messageId := 1 }
    message.Reachable ∧ message.encode = .ok [0x60, 0x45, 0, 1] ∧
      message.encodeWith (some []) = .ok [0x60, 0x45, 0, 1, 0xFA, 0] ∧
        ¬ message.HasRoomFor [] := by
  intro message
  refine ⟨.bare .acknowledgement .content 1, by decide +kernel, by decide +kernel, ?_⟩
  intro hroom
  rcases hroom.starts with hkind | hkind <;> cases hkind

/-- The bytes of a block with its marker and its length. -/
def blockSize : Option Bytes → Nat
  | some block => 2 + block.length
  | none => 0

theorem length_blockPart (message : Message) (block : Option Bytes) :
    (message.blockPart block).length = blockSize (message.sentBlock block) := by
  cases block with
  | none => rfl
  | some bytes =>
    rw [blockPart, sentBlock_some]
    split
    · simp only [blockSize, List.length_cons]
      omega
    · rfl

/-- A block with bytes that goes out leaves the payload less than a chunk. -/
theorem hasRoomFor_of_sentBlock {message : Message} {block : Option Bytes} {sent : Bytes}
    (h : message.sentBlock block = some sent) (hsome : sent ≠ []) : message.HasRoomFor sent := by
  obtain ⟨_, htakes⟩ := Option.filter_eq_some_iff.mp h
  exact (takesBlock_iff_hasRoomFor.mp htakes).resolve_right hsome

/-- Head, block and payload together. Each within its own limit is enough, but for the block that has
no room. -/
theorem sizes_within_iff {message : Message} (hhead : message.headSize ≤ maxHeaderSize)
    (hpayload : message.payload.length ≤ maxPayloadLength) {block : Option Bytes} :
    message.headSize + blockSize (message.sentBlock block) + message.payloadSize
        ≤ maxHeaderSize + 1 + maxPayloadLength ↔
      (message.sentBlock block = some [] →
        message.headSize + 2 + message.payload.length ≤ maxHeaderSize + maxPayloadLength) := by
  have htail : message.payloadSize ≤ 1 + message.payload.length := by
    unfold payloadSize
    split <;> omega
  cases hsent : message.sentBlock block with
  | none =>
    simp only [blockSize, reduceCtorEq, IsEmpty.forall_iff, iff_true]
    omega
  | some sent =>
    by_cases hsome : sent = []
    · subst hsome
      unfold maxHeaderSize maxPayloadLength at *
      simp only [blockSize, List.length_nil, forall_const]
      by_cases hnone : message.payload = []
      · rw [payloadSize, if_pos hnone, hnone, List.length_nil]
        omega
      · rw [payloadSize, if_neg hnone]
        omega
    · have hroom := (hasRoomFor_of_sentBlock hsent hsome).fits
      simp only [blockSize, Option.some.injEq, hsome, IsEmpty.forall_iff, iff_true]
      omega

/-- **How long the region before the payload gets.** It is the head of the message, which is within
the limit, and the block behind it, which the limit does not count. So the limit holds for the region
exactly if head and block are within it together. All that is written stays within the limits of
region and payload, unless the block is one without room. -/
theorem header_region_iff {message : Message} (hmessage : message.Reachable)
    {block : Option Bytes} {bytes : Bytes} (h : message.encodeWith block = .ok bytes) :
    (message.isEmpty = true → bytes.length = headerSize) ∧
      (message.isEmpty = false →
        ∃ region, bytes = region ++ message.payloadPart ∧
          message.headSize ≤ maxHeaderSize ∧
          region.length = message.headSize + blockSize (message.sentBlock block) ∧
          (region.length ≤ maxHeaderSize ↔
            ∀ sent, message.sentBlock block = some sent →
              message.headSize + 2 + sent.length ≤ maxHeaderSize) ∧
          (bytes.length ≤ maxHeaderSize + 1 + maxPayloadLength ↔
            (message.sentBlock block = some [] →
              message.headSize + 2 + message.payload.length
                ≤ maxHeaderSize + maxPayloadLength))) := by
  refine ⟨?_, ?_⟩
  · intro hempty
    rw [encodeWith_of_isEmpty hempty] at h
    cases h
    rfl
  · intro hcode
    have hpayload := hmessage.withinLimits.payload
    obtain ⟨row, hrow, hsize, rfl⟩ := (encodeWith_eq_ok_iff hcode).mp h
    have hhead : message.headSize ≤ maxHeaderSize := by
      rwa [headSize, ← length_of_encodeOptions hrow]
    have hregion : (message.front row ++ message.blockPart block).length
        = message.headSize + blockSize (message.sentBlock block) := by
      rw [List.length_append, length_front hrow, length_blockPart]
    refine ⟨message.front row ++ message.blockPart block, rfl, hhead, hregion, ?_, ?_⟩
    · rw [hregion]
      cases message.sentBlock block with
      | none => simpa [blockSize] using hhead
      | some sent =>
        simp only [blockSize, Option.some.injEq, forall_eq']
        omega
    · have htotal : (message.front row ++ message.blockPart block ++ message.payloadPart).length
          = message.headSize + blockSize (message.sentBlock block) + message.payloadSize := by
        rw [List.length_append, hregion, length_payloadPart]
      rw [← sizes_within_iff hhead hpayload, ← htotal]
      rfl

/-- A request with a payload and a block. -/
theorem header_region_of_request :
    let message : Message :=
      { kind := .confirmable, code := .get, messageId := 1, payload := [1] }
    message.Reachable ∧
      message.encodeWith (some [7]) = .ok [0x40, 1, 0, 1, 0xFA, 1, 7, 0xFF, 1] ∧
        ∃ region, [0x40, 1, 0, 1, 0xFA, 1, 7, 0xFF, 1] = region ++ message.payloadPart ∧
          region.length = 7 := by
  intro message
  have hmessage : message.Reachable := .set (.payload [1]) (.bare .confirmable .get 1)
  have hbytes : message.encodeWith (some [7]) = .ok [0x40, 1, 0, 1, 0xFA, 1, 7, 0xFF, 1] := by
    decide +kernel
  obtain ⟨region, hregion, _, hlength, _⟩ :=
    (header_region_iff hmessage hbytes).2 (by decide +kernel)
  refine ⟨hmessage, hbytes, region, hregion, hlength.trans ?_⟩
  decide +kernel

/-- **A region beyond the limit.** With a host of 64 bytes the head is as large as it may be, and a
block of one byte goes out behind it. -/
theorem region_beyond_limit :
    let message := (Message.set { kind := .confirmable, code := .get, messageId := 1 }
      (.uriHost (String.ofList (List.replicate 64 'h'))))
    let region := [0x40, 1, 0, 1, 0x3D, 0x33] ++ List.replicate 64 0x68 ++ [0xFA, 1, 0xAA]
    message.Reachable ∧ message.payload = [] ∧ message.encodeWith (some [0xAA]) = .ok region ∧
      maxHeaderSize < region.length := by
  intro message region
  refine ⟨.set (.uriHost _) (.bare .confirmable .get 1), ?_, ?_, ?_⟩ <;> decide +kernel

end Message

end MeshTelemetry
