import MeshTelemetry.Proofs.Message.RoundTrip

/-!
# Offering a block

A block of telemetry that is offered to a message is either left out, which leaves the message as it
would have been written without it, or inserted in one piece between the options and the payload.
Whether the message can be written is settled before the writer comes to the block. A reader gets to
the inserted marker at the end of an option, so it takes the marker for one whatever bytes the token,
the options, the block and the payload are made of.
-/

namespace MeshTelemetry

namespace Message

/-- Header, token and the row of options: what is written before a block or a payload. -/
def front (message : Message) (row : Bytes) : Bytes :=
  (MessageHeader.ofParts message.kind message.code message.messageId message.token.length).encode
    ++ message.token ++ row

/-- What is written when a block is offered to a message that would be `plain` without it, and the
block that goes out. -/
inductive Offered (message : Message) (block plain : Bytes) : Bytes → Option Bytes → Prop where
  | leftOut : message.telemetryRoom < block.length → Offered message block plain plain none
  | inserted {row : Bytes} :
      block.length ≤ message.telemetryRoom → block.length ≤ 255 →
      encodeOptions 0 message.wireOptions = .ok row →
      plain = message.front row ++ message.payloadPart →
      Offered message block plain
        (message.front row ++ (telemetryMarker :: UInt8.ofNat block.length :: block)
          ++ message.payloadPart)
        (some block)

variable {message : Message}

/-- The writer fails before it comes to the block, if it fails. -/
theorem encodeWith_eq_error_of_other {block : Option Bytes} {err : CodecError}
    (h : message.encodeWith block = .error err) (other : Option Bytes) :
    message.encodeWith other = .error err := by
  unfold encodeWith at h ⊢
  by_cases hempty : message.isEmpty = true
  · rw [if_pos hempty] at h
    cases h
  · rw [if_neg hempty] at h ⊢
    cases hrow : encodeOptions 0 message.wireOptions with
    | error first =>
      rw [hrow] at h
      exact h
    | ok row =>
      rw [hrow, ok_bind] at h
      rw [ok_bind]
      -- What can still fail is the limit on the size, which does not count the block.
      simp only at h ⊢
      split at h
      · rename_i hlarge
        rw [if_pos hlarge]
        exact h
      · cases h

/-- A block that is taken is written behind the options, and all around it stays. -/
theorem encodeWith_of_takesBlock (hcode : message.isEmpty = false) {block plain : Bytes}
    (htakes : message.takesBlock block = true) (h : message.encode = .ok plain) :
    ∃ row, encodeOptions 0 message.wireOptions = .ok row ∧
      plain = message.front row ++ message.payloadPart ∧
        message.encodeWith (some block)
          = .ok (message.front row ++ (telemetryMarker :: UInt8.ofNat block.length :: block)
              ++ message.payloadPart) := by
  obtain ⟨row, hrow, hsize, rfl⟩ := (encodeWith_eq_ok_iff hcode).mp h
  refine ⟨row, hrow, ?_, ?_⟩
  · rw [front, blockPart, List.append_nil]
  · apply (encodeWith_eq_ok_iff hcode).mpr
    exact ⟨row, hrow, hsize, by rw [front, blockPart, if_pos htakes]⟩

theorem encodeWith_of_not_takesBlock (hcode : message.isEmpty = false) {block plain : Bytes}
    (htakes : ¬ message.takesBlock block = true) (h : message.encode = .ok plain) :
    message.encodeWith (some block) = .ok plain := by
  obtain ⟨row, hrow, hsize, rfl⟩ := (encodeWith_eq_ok_iff hcode).mp h
  apply (encodeWith_eq_ok_iff hcode).mpr
  exact ⟨row, hrow, hsize, by rw [blockPart, blockPart, if_neg htakes]⟩

theorem exists_offered (hcode : message.isEmpty = false) (block : Bytes) {plain : Bytes}
    (h : message.encode = .ok plain) :
    ∃ written, message.encodeWith (some block) = .ok written ∧
      Offered message block plain written (message.sentBlock (some block)) := by
  rw [sentBlock_some]
  by_cases htakes : message.takesBlock block = true
  · obtain ⟨row, hrow, hplain, hwritten⟩ := encodeWith_of_takesBlock hcode htakes h
    have hroom := takesBlock_iff.mp htakes
    rw [if_pos htakes]
    exact ⟨_, hwritten,
      .inserted hroom (Nat.le_trans hroom message.telemetryRoom_le) hrow hplain⟩
  · rw [if_neg htakes]
    exact ⟨plain, encodeWith_of_not_takesBlock hcode htakes h,
      .leftOut (Nat.lt_of_not_le (mt takesBlock_iff.mpr htakes))⟩

/-- **An offered block never disturbs the message.** The message fails to be written with it exactly
if it does without, and for the same reason. Otherwise the block is left out or inserted behind the
last option, and a reader gets the message back, and with it the block if it was inserted. -/
theorem encodeWith_offered (hmessage : message.Reachable) (hcode : message.isEmpty = false)
    (block : Bytes) :
    (∀ err, message.encodeWith (some block) = .error err ↔ message.encode = .error err) ∧
      ∀ plain, message.encode = .ok plain →
        ∃ written sent, message.encodeWith (some block) = .ok written ∧
          Offered message block plain written sent ∧
            (message.proxyUri = none → message.proxyScheme = none →
              decodeWithTelemetry written = .ok (message, sent) ∧
                decode written = .ok message) := by
  refine ⟨fun err => ⟨?_, ?_⟩, ?_⟩
  · intro herror
    exact encodeWith_eq_error_of_other herror none
  · intro herror
    exact encodeWith_eq_error_of_other herror (some block)
  · intro plain hplain
    obtain ⟨written, hwritten, hoffered⟩ := exists_offered hcode block hplain
    refine ⟨written, _, hwritten, hoffered, ?_⟩
    intro huri hscheme
    have hread := decodeWithTelemetry_encodeWith hmessage.withinLimits hcode huri hscheme hwritten
    exact ⟨hread, decode_eq_of_decodeWithTelemetry hread⟩

theorem encodeWith_offered_request :
    let message : Message := { kind := .confirmable, code := .get, messageId := 7, payload := [1] }
    message.Reachable ∧ message.encode = .ok [64, 1, 0, 7, 0xFF, 1] ∧
      message.encodeWith (some [0xFA, 0xFF]) = .ok [64, 1, 0, 7, 0xFA, 2, 0xFA, 0xFF, 0xFF, 1] ∧
        decodeWithTelemetry [64, 1, 0, 7, 0xFA, 2, 0xFA, 0xFF, 0xFF, 1]
          = .ok (message, some [0xFA, 0xFF]) := by
  intro message
  have hreachable : message.Reachable := .set (.payload [1]) (.bare .confirmable .get 7)
  have hplain : message.encode = .ok [64, 1, 0, 7, 0xFF, 1] := by decide +kernel
  have hencode : message.encodeWith (some [0xFA, 0xFF])
      = .ok [64, 1, 0, 7, 0xFA, 2, 0xFA, 0xFF, 0xFF, 1] := by decide +kernel
  obtain ⟨_, hoffer⟩ := encodeWith_offered hreachable rfl [0xFA, 0xFF]
  obtain ⟨written, sent, hwritten, hoffered, hread⟩ := hoffer _ hplain
  have hsame := Except.ok.inj (hencode.symm.trans hwritten)
  refine ⟨hreachable, hplain, hencode, ?_⟩
  rw [hsame]
  cases hoffered with
  | leftOut hlong => exact absurd hlong (by decide +kernel)
  | inserted => exact (hread rfl rfl).1

end Message

end MeshTelemetry
