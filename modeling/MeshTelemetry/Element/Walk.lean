import MeshTelemetry.Element.Basic

/-!
# Walking a list of elements

A walk reads elements from the front of a frame's data until one ends the list, one does not decode,
or the data ends. It yields each element with its offset and stands behind the last one it could
read.

Telemetry is the first element of the walk that is marked as such, and nothing behind it is looked
at but a payload termination, which then belongs to the list. Without one the payload follows at
once.
-/

namespace MeshTelemetry

structure ElementWalk where
  rest : Bytes
  position : Nat := 0
  ended : Bool := false
  deriving DecidableEq, Repr

/-- What a step of a walk yields: an element and its offset, or the error that ends the walk. -/
abbrev WalkItem := Except TelemetryError (Nat × Element)

namespace ElementWalk

def ofBytes (bytes : Bytes) : ElementWalk := { rest := bytes }

def next? (walk : ElementWalk) : Option (WalkItem × ElementWalk) :=
  if walk.ended || walk.rest.isEmpty then none
  else
    match Element.read walk.position walk.rest with
    | .ok (element, rest) =>
      some (.ok (walk.position, element),
        { rest := rest
          position := walk.position + descriptorSize + element.content.length
          ended := element.endsList })
    | .error err => some (.error err, { walk with ended := true })

/-- The steps that a walk can still take at most. -/
def fuel (walk : ElementWalk) : Nat := if walk.ended then 0 else walk.rest.length + 1

theorem fuel_next?_lt {walk after : ElementWalk} {item : WalkItem}
    (h : walk.next? = some (item, after)) : after.fuel < walk.fuel := by
  unfold next? at h
  split at h
  · cases h
  · rename_i hgoing
    simp only [Bool.or_eq_true, not_or, Bool.not_eq_true] at hgoing
    split at h
    · rename_i element rest hread
      simp only [Option.some.injEq, Prod.mk.injEq] at h
      have hlt := Element.read_rest_length_lt hread
      rw [← h.2]
      simp only [fuel, hgoing.1, Bool.false_eq_true, if_false]
      split <;> omega
    · simp only [Option.some.injEq, Prod.mk.injEq] at h
      rw [← h.2]
      simp [fuel, hgoing.1]

/-- All further items, each with the walk behind it, and the walk at its end. -/
def run (walk : ElementWalk) : List (WalkItem × ElementWalk) × ElementWalk :=
  match hnext : walk.next? with
  | none => ([], walk)
  | some (item, after) =>
    have := fuel_next?_lt hnext
    let (items, final) := run after
    ((item, after) :: items, final)
termination_by walk.fuel

end ElementWalk

/-- Where the content of a telemetry element lies, and how long the list of elements is. -/
structure TelemetrySpan where
  start : Nat
  content : Bytes
  listLength : Nat
  deriving DecidableEq, Repr

def TelemetrySpan.stop (span : TelemetrySpan) : Nat := span.start + span.content.length

def terminationLength (bytes : Bytes) : Nat :=
  if bytes.take 2 = payloadTermination then payloadTermination.length else 0

/-- The place of the telemetry element whose walk step yielded `offset` and left `rest`. -/
def TelemetrySpan.ofElement (offset : Nat) (element : Element) (rest : Bytes) : TelemetrySpan where
  start := offset + descriptorSize
  content := element.content
  listLength := offset + descriptorSize + element.content.length + terminationLength rest

def ElementWalk.findTelemetry (walk : ElementWalk) (subtype : UInt8) :
    Except TelemetryError (Option TelemetrySpan) :=
  match hnext : walk.next? with
  | none => .ok none
  | some (.error err, _) => .error err
  | some (.ok (offset, element), after) =>
    have := ElementWalk.fuel_next?_lt hnext
    if element.isTelemetry subtype then .ok (some (.ofElement offset element after.rest))
    else after.findTelemetry subtype
termination_by walk.fuel

def findTelemetry (bytes : Bytes) (subtype : UInt8) :
    Except TelemetryError (Option TelemetrySpan) :=
  (ElementWalk.ofBytes bytes).findTelemetry subtype

end MeshTelemetry
