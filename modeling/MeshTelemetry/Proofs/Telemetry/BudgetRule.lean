import Mathlib.Order.Bounds.Basic
import MeshTelemetry.Proofs.Telemetry.Budget

/-!
# The rule of the budget

Counted exactly, the lengths of a frame with the header and with the records leave one decision each
time, and a node with any settings makes this one, however long the frame and the carrier are said to
be. The sums that the node takes stop at the greatest word. Past the limit they are no longer exact,
and there only their being past it matters; what is divided is a difference below it.
-/

namespace MeshTelemetry

namespace Settings

/-- What a frame of this length comes to with a header, counted exactly. -/
def headerLength (settings : Settings) (frameLength : Nat) : Nat :=
  frameLength + settings.initCost

/-- What it comes to with so many records behind the header. -/
def loadedLength (settings : Settings) (frameLength records : Nat) : Nat :=
  settings.headerLength frameLength + records * settings.recordSize

/-- The number of records that a frame of this length has room for, one at least. Records without
bytes are not counted. -/
def HasSlots (settings : Settings) (length slots : Nat) : Prop :=
  if settings.recordSize = 0 then slots = 0
  else 1 ≤ slots ∧
    IsGreatest {count | length + count * settings.recordSize ≤ settings.frameBudget} slots

/-- The decision about a frame of this length, by what it comes to. -/
inductive Decides (settings : Settings) (frameLength : Nat) :
    Option CarrierLoad → BudgetDecision → Prop where
  | skip :
      settings.frameBudget < settings.headerLength frameLength →
      Decides settings frameLength none .skip
  | create :
      settings.headerLength frameLength ≤ settings.frameBudget →
      Decides settings frameLength none .create
  | discard {load : CarrierLoad} :
      settings.frameBudget < settings.headerLength frameLength →
      Decides settings frameLength (some load) .discard
  | truncate {load : CarrierLoad} :
      settings.headerLength frameLength ≤ settings.frameBudget →
      settings.frameBudget < settings.loadedLength frameLength load.records →
      Decides settings frameLength (some load) .truncate
  | forward {load : CarrierLoad} :
      settings.loadedLength frameLength load.records ≤ settings.frameBudget →
      load.overflowed = true →
      Decides settings frameLength (some load) (.hold false)
  | mark {load : CarrierLoad} :
      settings.loadedLength frameLength load.records ≤ settings.frameBudget →
      load.overflowed = false →
      settings.frameBudget
        < settings.loadedLength frameLength load.records + settings.recordSize →
      Decides settings frameLength (some load) (.hold true)
  | accept {load : CarrierLoad} {slots : Nat} :
      load.overflowed = false →
      settings.loadedLength frameLength load.records + settings.recordSize
        ≤ settings.frameBudget →
      settings.HasSlots (settings.loadedLength frameLength load.records) slots →
      Decides settings frameLength (some load) (.accept slots)

section

variable {settings : Settings} {frameLength length slots : Nat}

theorem headerLength_le_loadedLength (settings : Settings) (frameLength records : Nat) :
    settings.headerLength frameLength ≤ settings.loadedLength frameLength records :=
  Nat.le_add_right _ _

/-- The greatest number that fits is the quotient of what is left. -/
theorem hasSlots_iff (hroom : length + settings.recordSize ≤ settings.frameBudget) :
    settings.HasSlots length slots
      ↔ slots = (settings.frameBudget - length) / settings.recordSize := by
  unfold HasSlots
  by_cases hsize : settings.recordSize = 0
  · rw [if_pos hsize, hsize, Nat.div_zero]
  · have hpos : 0 < settings.recordSize := Nat.pos_of_ne_zero hsize
    have hfits : ∀ count, length + count * settings.recordSize ≤ settings.frameBudget
        ↔ count ≤ (settings.frameBudget - length) / settings.recordSize := by
      intro count
      rw [Nat.le_div_iff_mul_le hpos]
      omega
    have hone : 1 ≤ (settings.frameBudget - length) / settings.recordSize := by
      apply (hfits 1).mp
      rwa [Nat.one_mul]
    have hgreatest : IsGreatest
        {count | length + count * settings.recordSize ≤ settings.frameBudget}
        ((settings.frameBudget - length) / settings.recordSize) :=
      ⟨(hfits _).mpr (Nat.le_refl _), fun count => (hfits count).mp⟩
    rw [if_neg hsize]
    constructor
    · rintro ⟨_, hslots⟩
      exact hslots.unique hgreatest
    · rintro rfl
      exact ⟨hone, hgreatest⟩

/-- The rule leaves no case open. -/
theorem exists_decides (settings : Settings) (frameLength : Nat) (load : Option CarrierLoad) :
    ∃ decision, settings.Decides frameLength load decision := by
  by_cases hheader : settings.headerLength frameLength ≤ settings.frameBudget
  · cases load with
    | none => exact ⟨_, .create hheader⟩
    | some load =>
      by_cases hrecords : settings.loadedLength frameLength load.records ≤ settings.frameBudget
      · cases hflag : load.overflowed with
        | true => exact ⟨_, .forward hrecords hflag⟩
        | false =>
          by_cases hroom : settings.loadedLength frameLength load.records + settings.recordSize
              ≤ settings.frameBudget
          · exact ⟨_, .accept hflag hroom ((hasSlots_iff hroom).mpr rfl)⟩
          · exact ⟨_, .mark hrecords hflag (Nat.lt_of_not_le hroom)⟩
      · exact ⟨_, .truncate hheader (Nat.lt_of_not_le hrecords)⟩
  · cases load with
    | none => exact ⟨_, .skip (Nat.lt_of_not_le hheader)⟩
    | some load => exact ⟨_, .discard (Nat.lt_of_not_le hheader)⟩

end

end Settings

namespace Budget

section

variable {settings : Settings} (hlimit : settings.frameBudget < maxLength)

include hlimit

theorem evaluate_none_of_settings (frameLength : Nat) :
    (ofSettings settings).evaluate frameLength none
      = if settings.frameBudget < settings.headerLength frameLength then .skip else .create :=
  @evaluate_none (ofSettings settings) hlimit frameLength

theorem evaluate_some_of_settings (frameLength : Nat) (load : CarrierLoad) :
    (ofSettings settings).evaluate frameLength (some load)
      = if settings.frameBudget < settings.headerLength frameLength then .discard
        else if settings.frameBudget < settings.loadedLength frameLength load.records then .truncate
        else if load.overflowed then .hold false
        else if settings.frameBudget
            < settings.loadedLength frameLength load.records + settings.recordSize then .hold true
        else .accept
          ((settings.frameBudget - settings.loadedLength frameLength load.records)
            / settings.recordSize) := by
  have hcost : ∀ records, frameLength + (ofSettings settings).telemetryCost records
      = settings.loadedLength frameLength records := by
    intro records
    exact (Nat.add_assoc _ _ _).symm
  have hnext : settings.loadedLength frameLength (load.records + 1)
      = settings.loadedLength frameLength load.records + settings.recordSize := by
    rw [Settings.loadedLength, Nat.add_one_mul, ← Nat.add_assoc]
    rfl
  rw [@evaluate_some (ofSettings settings) hlimit frameLength load, hcost, hcost, hnext]
  rfl

/-- The budget decides as the rule does. -/
theorem evaluate_of_decides {frameLength : Nat} {load : Option CarrierLoad}
    {decision : BudgetDecision} (h : settings.Decides frameLength load decision) :
    (ofSettings settings).evaluate frameLength load = decision := by
  cases h with
  | skip hlong => rw [evaluate_none_of_settings hlimit, if_pos hlong]
  | create hheader => rw [evaluate_none_of_settings hlimit, if_neg (Nat.not_lt.mpr hheader)]
  | discard hlong => rw [evaluate_some_of_settings hlimit, if_pos hlong]
  | truncate hheader hlong =>
    rw [evaluate_some_of_settings hlimit, if_neg (Nat.not_lt.mpr hheader), if_pos hlong]
  | @forward load hrecords hflag =>
    have hheader := settings.headerLength_le_loadedLength frameLength load.records
    rw [evaluate_some_of_settings hlimit, if_neg (by omega), if_neg (by omega), if_pos hflag]
  | @mark load hrecords hflag hlong =>
    have hheader := settings.headerLength_le_loadedLength frameLength load.records
    rw [evaluate_some_of_settings hlimit, if_neg (by omega), if_neg (by omega),
      if_neg (by simp [hflag]), if_pos hlong]
  | @accept load slots hflag hroom hslots =>
    have hheader := settings.headerLength_le_loadedLength frameLength load.records
    rw [evaluate_some_of_settings hlimit, if_neg (by omega), if_neg (by omega),
      if_neg (by simp [hflag]), if_neg (by omega), (Settings.hasSlots_iff hroom).mp hslots]

/-- **The decision.** With any limit below the greatest word, the budget decides about every frame
and every carrier as exact lengths have it. -/
theorem evaluate_eq_iff_decides (frameLength : Nat) (load : Option CarrierLoad)
    (decision : BudgetDecision) :
    (ofSettings settings).evaluate frameLength load = decision
      ↔ settings.Decides frameLength load decision := by
  constructor
  · intro h
    obtain ⟨made, hmade⟩ := settings.exists_decides frameLength load
    rwa [← h, evaluate_of_decides hlimit hmade]
  · exact evaluate_of_decides hlimit

end

/-- Records of 2 ^ 62 bytes under the greatest limit that the rule covers: beside one of them there is
room for two, and as many as a word can count do not fit, though their true length is no word. -/
theorem evaluate_eq_iff_decides_hugeRecords :
    let settings : Settings := { layout := .filler 0x4000000000000000, frameBudget := maxLength - 1 }
    settings.frameBudget < maxLength ∧
      settings.Decides 10 (some ⟨1, false⟩) (.accept 2) ∧
        settings.Decides 10 (some ⟨maxLength, false⟩) .truncate := by
  intro settings
  have hlimit : settings.frameBudget < maxLength := by decide
  refine ⟨hlimit, ?_, ?_⟩
  · exact (evaluate_eq_iff_decides hlimit _ _ _).mp (by decide +kernel)
  · exact (evaluate_eq_iff_decides hlimit _ _ _).mp (by decide +kernel)

end Budget

end MeshTelemetry
