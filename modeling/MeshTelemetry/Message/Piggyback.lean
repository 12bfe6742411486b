import MeshTelemetry.Message.Basic

/-!
# Telemetry blocks in messages

A message that starts an exchange can carry a block of telemetry between its options and its
payload. The block takes only the room that the payload leaves in one chunk, less a margin for what
header compression may fail to save. A block that does not fit is left out and the message goes
without it.
-/

namespace MeshTelemetry

def telemetryMarker : UInt8 := 0xFA

/-- Bytes of a chunk kept free in case the header compresses badly. -/
def compressionMargin : Nat := 11

/-- Bytes of a chunk that a payload of nothing but records does not use. -/
def recordPackingOverhead : Nat := 14

/-- Records of one size that fill a payload; records without bytes fill none. -/
def recordsPerMessage (recordSize : Nat) : Nat :=
  (maxPayloadLength - recordPackingOverhead) / recordSize

namespace Message

/-- The longest block that the message has room for; the length of a block is one byte. -/
def telemetryRoom (message : Message) : Nat :=
  if message.kind.carriesTelemetry then
    min (maxPayloadLength - (message.payload.length + 2 + compressionMargin)) 255
  else 0

def takesBlock (message : Message) (block : Bytes) : Bool :=
  block.length ≤ message.telemetryRoom

/-- What the message writes for the block it is offered. -/
def blockPart (message : Message) : Option Bytes → Bytes
  | some block =>
    if message.takesBlock block then telemetryMarker :: UInt8.ofNat block.length :: block else []
  | none => []

end Message

end MeshTelemetry
