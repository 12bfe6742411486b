/-!
# Message kinds

The two type bits of a message header.
-/

namespace MeshTelemetry

inductive MessageKind where
  | confirmable
  | nonConfirmable
  | acknowledgement
  | reset
  deriving DecidableEq, Repr

namespace MessageKind

def bits : MessageKind → Nat
  | .confirmable => 0
  | .nonConfirmable => 1
  | .acknowledgement => 2
  | .reset => 3

/-- The kind that the two low bits of `bits` name. -/
def ofBits (bits : Nat) : MessageKind :=
  match bits % 4 with
  | 0 => .confirmable
  | 1 => .nonConfirmable
  | 2 => .acknowledgement
  | _ => .reset

def label : MessageKind → String
  | .confirmable => "CON"
  | .nonConfirmable => "NON"
  | .acknowledgement => "ACK"
  | .reset => "RST"

/-- Replies to an exchange carry no telemetry: only the kinds that start one do. -/
def carriesTelemetry : MessageKind → Bool
  | .confirmable | .nonConfirmable => true
  | .acknowledgement | .reset => false

theorem bits_lt (kind : MessageKind) : kind.bits < 4 := by
  cases kind <;> decide

end MessageKind

end MeshTelemetry
