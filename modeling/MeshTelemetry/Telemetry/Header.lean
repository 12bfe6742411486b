import MeshTelemetry.Bytes
import MeshTelemetry.Telemetry.Error

/-!
# The telemetry header

Four bytes lead the records of a frame: the subtype that marks the element as telemetry, the control
byte, the number of records admitted along the path, which wraps, and the bitmap that selects the
reporting nodes. The two low control bits are the overflow flag. A node sets it when a record was
left out for lack of space, and nobody clears it.
-/

namespace MeshTelemetry

def telemetryHeaderSize : Nat := 4

def overflowMask : UInt8 := 0x03

structure Control where
  bits : UInt8
  deriving DecidableEq, Repr

namespace Control

/-- One bit of the flag is enough. -/
def isOverflowed (control : Control) : Bool := control.bits &&& overflowMask ≠ 0

def setOverflowed (control : Control) : Control := ⟨control.bits ||| overflowMask⟩

end Control

structure TelemetryHeader where
  subtype : UInt8
  control : Control
  sequence : UInt8
  bitmap : UInt8
  deriving DecidableEq, Repr

/-- Whether the bitmap asks the node to report: the node's id counts modulo eight. -/
def bitmapSelects (bitmap : UInt8) (nodeId : UInt16) : Bool :=
  bitmap.toNat.testBit (nodeId.toNat % 8)

namespace TelemetryHeader

/-- The header of a carrier that no record has entered yet. -/
def fresh (subtype control bitmap : UInt8) : TelemetryHeader := ⟨subtype, ⟨control⟩, 0, bitmap⟩

def isOverflowed (header : TelemetryHeader) : Bool := header.control.isOverflowed

def setOverflowed (header : TelemetryHeader) : TelemetryHeader :=
  { header with control := header.control.setOverflowed }

def selects (header : TelemetryHeader) (nodeId : UInt16) : Bool :=
  bitmapSelects header.bitmap nodeId

def encode (header : TelemetryHeader) : Bytes :=
  [header.subtype, header.control.bits, header.sequence, header.bitmap]

def decode : Bytes → Except TelemetryError TelemetryHeader
  | subtype :: control :: sequence :: bitmap :: _ => .ok ⟨subtype, ⟨control⟩, sequence, bitmap⟩
  | _ => .error (.malformedElement 0 .headerTruncated)

end TelemetryHeader

end MeshTelemetry
