import MeshTelemetry.Bytes
import MeshTelemetry.Telemetry.Error

/-!
# Telemetry records

A node reports itself in one record. A sample says which node it is, on which channel and in which
time slot it sent, and how strongly it heard the frame before; channel and slot share one
little-endian word of four and twelve bits. A filler record is only so many bytes long, for trials
of other record sizes. All records of a node have the node's layout.
-/

namespace MeshTelemetry

def sampleSize : Nat := 5

inductive RecordLayout where
  | sample
  | filler (size : Nat)
  deriving DecidableEq, Repr

def RecordLayout.recordSize : RecordLayout → Nat
  | .sample => sampleSize
  | .filler size => size

structure Sample where
  nodeId : UInt16
  channel : Fin 16
  slot : Fin 4096
  rssi : Int8
  deriving DecidableEq, Repr

namespace Sample

/-- A sample of these parts; of channel and slot the low bits are kept. -/
def ofParts (nodeId : UInt16) (channel slot : Nat) (rssi : Int8) : Sample :=
  ⟨nodeId, lowNibble channel, Fin.ofNat 4096 slot, rssi⟩

def channelAndSlot (sample : Sample) : Nat := sample.channel.val * 4096 + sample.slot.val

def setChannel (sample : Sample) (channel : Nat) : Sample :=
  { sample with channel := lowNibble channel }

/-- A sender leaves the channel at zero, and the receiver, who knows it, fills it in. -/
def fillChannel (sample : Sample) (channel : Nat) : Sample :=
  if sample.channel.val = 0 then sample.setChannel channel else sample

def encode (sample : Sample) : Bytes :=
  bytesLE 2 sample.nodeId.toNat ++ bytesLE 2 sample.channelAndSlot ++ [sample.rssi.toUInt8]

def decode (bytes : Bytes) : Sample :=
  let shared := natOfBytesLE ((bytes.drop 2).take 2)
  { nodeId := UInt16.ofNat (natOfBytesLE (bytes.take 2))
    channel := lowNibble (shared / 4096)
    slot := Fin.ofNat 4096 shared
    rssi := (UInt8.ofNat (natOfBytesLE ((bytes.drop 4).take 1))).toInt8 }

end Sample

inductive Record where
  | sample (fields : Sample)
  | filler (bytes : Bytes)
  deriving DecidableEq, Repr

namespace Record

def encode : Record → Bytes
  | .sample fields => fields.encode
  | .filler bytes => bytes

def encodedLength : Record → Nat
  | .sample _ => sampleSize
  | .filler bytes => bytes.length

/-- Whether the record is written in this layout. -/
def hasLayout : Record → RecordLayout → Bool
  | .sample _, .sample => true
  | .filler bytes, .filler size => bytes.length = size
  | _, _ => false

def isSample : Record → Bool
  | .sample _ => true
  | .filler _ => false

def fillChannel (channel : Nat) : Record → Record
  | .sample fields => .sample (fields.fillChannel channel)
  | .filler bytes => .filler bytes

def decode (layout : RecordLayout) (bytes : Bytes) : Except TelemetryError Record :=
  if bytes.length = layout.recordSize then
    .ok <| match layout with
      | .sample => .sample (Sample.decode bytes)
      | .filler _ => .filler bytes
  else .error (.layoutMismatch layout.recordSize bytes.length)

end Record

end MeshTelemetry
