import MeshTelemetry.Message.Options
import MeshTelemetry.Message.Piggyback

/-!
# Reading messages

After the header and the token a message is a row of items, each an option or a telemetry block. The
row ends with the input or at a payload marker: 0xFF, and any other byte from 0xF0 on that marks no
block. Items are read whole before they count, so that a cut message is reported as cut and not for
what its last item might have been. Of several telemetry blocks the last one counts.
-/

namespace MeshTelemetry

def maxOptionNumber : Nat := 65535

inductive Item where
  | block (bytes : Bytes)
  | option (delta : Nat) (value : Bytes)
  deriving DecidableEq, Repr

/-- Whether the byte ends the row of items and the payload follows it. -/
def marksPayload (byte : UInt8) : Bool := 0xF0 ≤ byte && byte ≠ telemetryMarker

/-- Reads the item that starts with the byte `first` at offset `start`; the cursor stands behind
that byte. -/
def readItem (first : UInt8) (start : Nat) (cursor : Cursor) :
    Except CodecError (Item × Cursor) :=
  if first = telemetryMarker then do
    let (length, afterLength) ← cursor.take 1 .telemetryLength
    let (block, after) ← afterLength.take (natOfBytesBE length) .telemetryBlock
    return (.block block, after)
  else do
    let (header, afterHeader) ← OptionHeader.read first start cursor
    let (value, after) ← afterHeader.take header.length .optionValue
    return (.option header.delta value, after)

/-- What has been read of a message: its options so far, the number of the last one, and the last
telemetry block. -/
structure Reading where
  message : Message
  number : Nat := 0
  telemetry : Option Bytes := none
  deriving DecidableEq, Repr

namespace Reading

def add (reading : Reading) (start : Nat) : Item → Except CodecError Reading
  | .block bytes => .ok { reading with telemetry := some bytes }
  | .option delta value =>
    if maxOptionNumber < reading.number + delta then .error (.optionNumberOverflow start)
    else do
      let message ← reading.message.absorb ⟨reading.number + delta, value⟩
      return { reading with message := message, number := reading.number + delta }

/-- Ends the row of items with a payload; what exceeds a chunk is cut off. -/
def finish (reading : Reading) (payload : Bytes) : Reading :=
  { reading with message := { reading.message with payload := payload.take maxPayloadLength } }

end Reading

theorem Extended.read_rest_length_le {nibble start value : Nat} {field : Field}
    {cursor after : Cursor} (h : Extended.read nibble field start cursor = .ok (value, after)) :
    after.rest.length ≤ cursor.rest.length := by
  unfold Extended.read at h
  split at h
  · cases h
    exact Nat.le_refl _
  · split at h
    · cases htake : cursor.take 1 field with
      | error err => simp [htake, bind, Except.bind] at h
      | ok taken =>
        simp only [htake, bind, Except.bind, pure, Except.pure, Except.ok.injEq,
          Prod.mk.injEq] at h
        exact h.2 ▸ Cursor.take_rest_length_le htake
    · split at h
      · cases htake : cursor.take 2 field with
        | error err => simp [htake, bind, Except.bind] at h
        | ok taken =>
          simp only [htake, bind, Except.bind, pure, Except.pure, Except.ok.injEq,
            Prod.mk.injEq] at h
          exact h.2 ▸ Cursor.take_rest_length_le htake
      · cases h

theorem OptionHeader.read_rest_length_le {first : UInt8} {start : Nat} {header : OptionHeader}
    {cursor after : Cursor} (h : OptionHeader.read first start cursor = .ok (header, after)) :
    after.rest.length ≤ cursor.rest.length := by
  unfold OptionHeader.read at h
  cases hdelta : Extended.read (first.toNat / 16) .optionDelta start cursor with
  | error err => simp [hdelta, bind, Except.bind] at h
  | ok delta =>
    simp only [hdelta, bind, Except.bind] at h
    cases hlength : Extended.read (first.toNat % 16) .optionLength start delta.2 with
    | error err => simp [hlength] at h
    | ok length =>
      simp only [hlength, pure, Except.pure, Except.ok.injEq, Prod.mk.injEq] at h
      exact h.2 ▸ Nat.le_trans (Extended.read_rest_length_le hlength)
        (Extended.read_rest_length_le hdelta)

theorem readItem_rest_length_le {first : UInt8} {start : Nat} {cursor after : Cursor} {item : Item}
    (h : readItem first start cursor = .ok (item, after)) :
    after.rest.length ≤ cursor.rest.length := by
  unfold readItem at h
  split at h
  · cases hlength : cursor.take 1 .telemetryLength with
    | error err => simp [hlength, bind, Except.bind] at h
    | ok length =>
      simp only [hlength, bind, Except.bind] at h
      cases hblock : length.2.take (natOfBytesBE length.1) .telemetryBlock with
      | error err => simp [hblock] at h
      | ok block =>
        simp only [hblock, pure, Except.pure, Except.ok.injEq, Prod.mk.injEq] at h
        exact h.2 ▸ Nat.le_trans (Cursor.take_rest_length_le hblock)
          (Cursor.take_rest_length_le hlength)
  · cases hheader : OptionHeader.read first start cursor with
    | error err => simp [hheader, bind, Except.bind] at h
    | ok header =>
      simp only [hheader, bind, Except.bind] at h
      cases hvalue : header.2.take header.1.length .optionValue with
      | error err => simp [hvalue] at h
      | ok value =>
        simp only [hvalue, pure, Except.pure, Except.ok.injEq, Prod.mk.injEq] at h
        exact h.2 ▸ Nat.le_trans (Cursor.take_rest_length_le hvalue)
          (OptionHeader.read_rest_length_le hheader)

def readItems (reading : Reading) (offset : Nat) : Bytes → Except CodecError Reading
  | [] => .ok reading
  | first :: rest =>
    if marksPayload first then .ok (reading.finish rest)
    else
      match hread : readItem first offset ⟨offset + 1, rest⟩ with
      | .error err => .error err
      | .ok (item, after) =>
        have := readItem_rest_length_le hread
        match reading.add offset item with
        | .error err => .error err
        | .ok next => readItems next after.offset after.rest
termination_by bytes => bytes.length
decreasing_by exact Nat.lt_succ_of_le this

namespace Message

/-- Reads a message and the telemetry block that came with it. -/
def decodeWithTelemetry (bytes : Bytes) : Except CodecError (Message × Option Bytes) := do
  let header ← MessageHeader.decode bytes
  let (token, after) ← Cursor.take ⟨headerSize, bytes.drop headerSize⟩ header.tokenLength .token
  let message : Message :=
    { kind := header.kind, code := header.code, messageId := header.messageId, token := token }
  let reading ← readItems { message := message } after.offset after.rest
  return (reading.message, reading.telemetry)

def decode (bytes : Bytes) : Except CodecError Message :=
  (decodeWithTelemetry bytes).map Prod.fst

end Message

end MeshTelemetry
