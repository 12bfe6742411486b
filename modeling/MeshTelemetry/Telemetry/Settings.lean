import MeshTelemetry.Element.Basic
import MeshTelemetry.Telemetry.Header
import MeshTelemetry.Telemetry.Record

/-!
# Node settings

What is fixed for the lifetime of a node. Settings are usable if records have bytes, the declared
overhead covers the three descriptors that are always written, the budget covers an empty header,
both pools have a slot, and a full carrier fits the length field of its element.
-/

namespace MeshTelemetry

/-- Bytes of the two terminations and the descriptor. -/
def minElementOverhead : Nat := 6

inductive Sampling where
  /-- Add a record whenever there is room. -/
  | deterministic
  /-- Add a record with a chance that falls with the distance to the root, so that far nodes leave
  room for the hops to come. -/
  | rootDistanceWeighted
  deriving DecidableEq, Repr

structure Settings where
  layout : RecordLayout := .sample
  frameBudget : Nat := 125
  elementOverhead : Nat := 7
  carrierCapacity : Nat := 32
  consumptionCapacity : Nat := 256
  sampling : Sampling := .deterministic
  subtype : UInt8 := 0x2A
  initialControl : UInt8 := 0xA0
  defaultBitmap : UInt8 := 0xFF
  deriving DecidableEq, Repr

namespace Settings

def recordSize (settings : Settings) : Nat := settings.layout.recordSize

/-- What a header without records adds to a frame. -/
def initCost (settings : Settings) : Nat := telemetryHeaderSize + settings.elementOverhead

/-- The content of a carrier with a record in every slot. -/
def maxContent (settings : Settings) : Nat :=
  telemetryHeaderSize + settings.carrierCapacity * settings.recordSize

/-- The first fault in the order of the checks. -/
def fault? (settings : Settings) : Option SettingFault :=
  if settings.recordSize = 0 then some .emptyRecord
  else if settings.elementOverhead < minElementOverhead then some .overheadTooSmall
  else if settings.frameBudget < settings.initCost then some .budgetTooSmall
  else if settings.carrierCapacity = 0 then some .noCarrierSlot
  else if settings.consumptionCapacity = 0 then some .noConsumptionSlot
  else if maxPayloadContent < settings.maxContent then some .carrierTooLong
  else none

def validate (settings : Settings) : Except TelemetryError Unit :=
  match settings.fault? with
  | some fault => .error (.invalidSettings fault)
  | none => .ok ()

end Settings

end MeshTelemetry
