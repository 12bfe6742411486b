import MeshTelemetry.Telemetry.Settings

/-!
# The frame budget

All costs obey one rule: a layout fits if the frame, the header's cost and the records, one more
included if one is to be added, are at most the budget. Lengths are 64-bit words and sums stop at
the greatest word, so that a budget of that size never refuses.
-/

namespace MeshTelemetry

/-- The greatest length that a word holds. -/
def maxLength : Nat := 0xFFFFFFFFFFFFFFFF

def addLengths (left right : Nat) : Nat := min (left + right) maxLength

def mulLengths (left right : Nat) : Nat := min (left * right) maxLength

/-- What the carrier holds, as far as the budget is concerned. -/
structure CarrierLoad where
  records : Nat
  overflowed : Bool
  deriving DecidableEq, Repr

inductive BudgetDecision where
  /-- No carrier, and not even an empty header fits. -/
  | skip
  /-- No carrier, and an empty header fits. -/
  | create
  /-- The carrier's header does not fit. -/
  | discard
  /-- The carrier's header fits and its records do not. -/
  | truncate
  /-- The carrier fits and takes no record; the flag says whether to mark the overflow now. -/
  | hold (overflow : Bool)
  /-- One more record fits; so many slots are left before it. -/
  | accept (remainingSlots : Nat)
  deriving DecidableEq, Repr

structure Budget where
  limit : Nat
  initCost : Nat
  recordSize : Nat
  deriving DecidableEq, Repr

namespace Budget

def ofSettings (settings : Settings) : Budget :=
  ⟨settings.frameBudget, settings.initCost, settings.recordSize⟩

/-- What a header and so many records add to a frame. -/
def telemetryCost (budget : Budget) (records : Nat) : Nat :=
  budget.initCost + records * budget.recordSize

/-- What to do with a frame of this length, given the carrier if there is one. -/
def evaluate (budget : Budget) (frameLength : Nat) (load : Option CarrierLoad) : BudgetDecision :=
  let header := addLengths frameLength budget.initCost
  match load with
  | none => if budget.limit < header then .skip else .create
  | some load =>
    let current := addLengths header (mulLengths load.records budget.recordSize)
    if budget.limit < header then .discard
    else if budget.limit < current then .truncate
    else if load.overflowed then .hold false
    else if budget.limit < addLengths current budget.recordSize then .hold true
    else .accept ((budget.limit - current) / budget.recordSize)

end Budget

/-- The chance in percent that a node adds its record: a draw below it does. A node that is its own
root counts as one hop away. -/
def admissionPercent (remainingSlots rootDistance : Nat) : Nat :=
  mulLengths remainingSlots 100 / max 1 rootDistance

end MeshTelemetry
