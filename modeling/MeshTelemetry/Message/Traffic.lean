import MeshTelemetry.Message.Encoding
import MeshTelemetry.Message.Decoding

/-!
# Traffic counters

The counters of a node's codec: every attempt to write or read a message is counted once, by its
outcome and by the kind of the message, and every telemetry block by what became of it. Counters
wrap at 64 bits.
-/

namespace MeshTelemetry

inductive CodecCall where
  | encode (message : Message) (block : Option Bytes)
  | decode (bytes : Bytes)
  deriving DecidableEq, Repr

structure Traffic where
  encoded : UInt64 := 0
  decoded : UInt64 := 0
  encodeErrors : UInt64 := 0
  decodeErrors : UInt64 := 0
  confirmable : UInt64 := 0
  nonConfirmable : UInt64 := 0
  acknowledgement : UInt64 := 0
  reset : UInt64 := 0
  blocksSent : UInt64 := 0
  blocksReceived : UInt64 := 0
  blocksSkipped : UInt64 := 0
  deriving DecidableEq, Repr

namespace Traffic

def countKind (traffic : Traffic) : MessageKind → Traffic
  | .confirmable => { traffic with confirmable := traffic.confirmable + 1 }
  | .nonConfirmable => { traffic with nonConfirmable := traffic.nonConfirmable + 1 }
  | .acknowledgement => { traffic with acknowledgement := traffic.acknowledgement + 1 }
  | .reset => { traffic with reset := traffic.reset + 1 }

/-- Counts the block that a written message was offered. A message with the empty code is not asked
to carry any. -/
def countOffer (traffic : Traffic) (message : Message) : Option Bytes → Traffic
  | some block =>
    if message.isEmpty then traffic
    else if message.takesBlock block then { traffic with blocksSent := traffic.blocksSent + 1 }
    else { traffic with blocksSkipped := traffic.blocksSkipped + 1 }
  | none => traffic

def countEncode (traffic : Traffic) (message : Message) (block : Option Bytes) : Traffic :=
  match message.encodeWith block with
  | .ok _ =>
    let counted := (traffic.countOffer message block).countKind message.kind
    { counted with encoded := counted.encoded + 1 }
  | .error _ => { traffic with encodeErrors := traffic.encodeErrors + 1 }

def countDecode (traffic : Traffic) (bytes : Bytes) : Traffic :=
  match Message.decodeWithTelemetry bytes with
  | .ok (message, block) =>
    let counted := traffic.countKind message.kind
    { counted with
      decoded := counted.decoded + 1
      blocksReceived := counted.blocksReceived + if block.isSome then 1 else 0 }
  | .error _ => { traffic with decodeErrors := traffic.decodeErrors + 1 }

def count (traffic : Traffic) : CodecCall → Traffic
  | .encode message block => traffic.countEncode message block
  | .decode bytes => traffic.countDecode bytes

/-- The counters after a run of calls. -/
def countAll (traffic : Traffic) (calls : List CodecCall) : Traffic :=
  calls.foldl count traffic

/-- The share of failed attempts to read, if there were any attempts. -/
def decodeErrorRatio? (traffic : Traffic) : Option Float :=
  let attempts := traffic.decoded + traffic.decodeErrors
  if attempts = 0 then none
  else some (traffic.decodeErrors.toFloat / attempts.toFloat)

end Traffic

end MeshTelemetry
