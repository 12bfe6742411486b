/-!
# What can go wrong with telemetry

A frame that has no room for telemetry is no error: the budget decides about it. Errors are left for
storage that is full, elements that do not decode, settings that describe no node, and records that
do not have the node's layout.
-/

namespace MeshTelemetry

inductive PoolName where
  | carrier
  | consumption
  deriving DecidableEq, Repr

def PoolName.label : PoolName → String
  | .carrier => "carrier"
  | .consumption => "consumption"

inductive ElementFault where
  | descriptorTruncated
  | contentOverrun
  | contentTooLong
  | headerTruncated
  deriving DecidableEq, Repr

def ElementFault.reason : ElementFault → String
  | .descriptorTruncated => "descriptor truncated"
  | .contentOverrun => "content runs past the frame"
  | .contentTooLong => "element content exceeds 11-bit length"
  | .headerTruncated => "telemetry header truncated"

inductive SettingFault where
  | emptyRecord
  | overheadTooSmall
  | budgetTooSmall
  | noCarrierSlot
  | noConsumptionSlot
  | carrierTooLong
  deriving DecidableEq, Repr

namespace SettingFault

def field : SettingFault → String
  | emptyRecord => "layout"
  | overheadTooSmall => "ie_overhead"
  | budgetTooSmall => "frame_budget"
  | noCarrierSlot => "carrier_capacity"
  | noConsumptionSlot => "consumption_capacity"
  | carrierTooLong => "carrier_capacity"

def reason : SettingFault → String
  | emptyRecord => "record size must be non-zero"
  | overheadTooSmall => "must cover the three element descriptors"
  | budgetTooSmall => "smaller than the telemetry header cost"
  | noCarrierSlot => "must be non-zero"
  | noConsumptionSlot => "must be non-zero"
  | carrierTooLong => "full carrier exceeds the element length field"

end SettingFault

inductive TelemetryError where
  | poolExhausted (pool : PoolName) (capacity : Nat)
  | headerAllocation (needed : Nat)
  | noCarrier
  | malformedElement (offset : Nat) (fault : ElementFault)
  | invalidSettings (fault : SettingFault)
  | layoutMismatch (expected got : Nat)
  deriving DecidableEq, Repr

def TelemetryError.message : TelemetryError → String
  | poolExhausted pool capacity => s!"{pool.label} pool exhausted ({capacity} slots)"
  | headerAllocation needed => s!"header allocation failed: need {needed} bytes"
  | noCarrier => "no telemetry carrier to embed"
  | malformedElement offset fault =>
    s!"malformed information element at offset {offset}: {fault.reason}"
  | invalidSettings fault => s!"invalid configuration: {fault.field} {fault.reason}"
  | layoutMismatch expected got =>
    s!"record layout mismatch: expected {expected} bytes, got {got}"

end MeshTelemetry
