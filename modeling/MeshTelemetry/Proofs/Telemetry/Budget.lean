import MeshTelemetry.Telemetry.Budget

/-!
# The budget without saturation

Sums stop at the greatest word, but a limit below that word is passed by the stopped sum exactly if
it is passed by the true one. So under such a limit the budget decides by plain arithmetic, and only
there: at the greatest limit nothing is ever too long.
-/

namespace MeshTelemetry

/-- What usable settings promise. -/
structure Settings.Usable (settings : Settings) : Prop where
  recordSize_pos : 0 < settings.recordSize
  overhead : minElementOverhead ≤ settings.elementOverhead
  budget : settings.initCost ≤ settings.frameBudget
  carrierCapacity_pos : 0 < settings.carrierCapacity
  consumptionCapacity_pos : 0 < settings.consumptionCapacity
  content : settings.maxContent ≤ maxPayloadContent

theorem check_eq_none_iff {fails : Prop} [Decidable fails] {fault : SettingFault}
    {others : Option SettingFault} :
    (if fails then some fault else others) = none ↔ ¬ fails ∧ others = none := by
  by_cases hfails : fails
  · simp [hfails]
  · simp [hfails]

theorem Settings.usable_of_validate {settings : Settings} (h : settings.validate = .ok ()) :
    settings.Usable := by
  unfold validate at h
  split at h
  · cases h
  · rename_i hfault
    simp only [fault?, check_eq_none_iff] at hfault
    obtain ⟨hrecord, hoverhead, hbudget, hcarrier, hconsumption, hcontent, _⟩ := hfault
    exact
      { recordSize_pos := Nat.pos_of_ne_zero hrecord
        overhead := Nat.le_of_not_lt hoverhead
        budget := Nat.le_of_not_lt hbudget
        carrierCapacity_pos := Nat.pos_of_ne_zero hcarrier
        consumptionCapacity_pos := Nat.pos_of_ne_zero hconsumption
        content := Nat.le_of_not_lt hcontent }

theorem lt_addLengths_iff {limit left right : Nat} (hlimit : limit < maxLength) :
    limit < addLengths left right ↔ limit < left + right := by
  unfold addLengths
  omega

namespace Budget

/-- Without a carrier the only question is whether to make one. -/
theorem evaluate_none_cases (budget : Budget) (frameLength : Nat) :
    budget.evaluate frameLength none = .skip ∨ budget.evaluate frameLength none = .create := by
  unfold evaluate
  simp only
  split
  · exact .inl rfl
  · exact .inr rfl

/-- With a carrier that question does not arise. -/
theorem evaluate_some_ne (budget : Budget) (frameLength : Nat) (load : CarrierLoad) :
    budget.evaluate frameLength (some load) ≠ .skip ∧
      budget.evaluate frameLength (some load) ≠ .create := by
  unfold evaluate
  simp only
  repeat' split
  all_goals exact ⟨by simp, by simp⟩

/-- A marked carrier takes no record and is not marked again. -/
theorem evaluate_of_overflowed (budget : Budget) (frameLength : Nat) {load : CarrierLoad}
    (hflag : load.overflowed = true) :
    budget.evaluate frameLength (some load) = .discard ∨
      budget.evaluate frameLength (some load) = .truncate ∨
        budget.evaluate frameLength (some load) = .hold false := by
  unfold evaluate
  simp only [hflag, if_true]
  split
  · exact .inl rfl
  · split
    · exact .inr (.inl rfl)
    · exact .inr (.inr rfl)

theorem lt_of_evaluate_none_skip {budget : Budget} {frameLength : Nat}
    (h : budget.evaluate frameLength none = .skip) :
    budget.limit < frameLength + budget.initCost := by
  have hle : addLengths frameLength budget.initCost ≤ frameLength + budget.initCost :=
    Nat.min_le_left _ _
  unfold evaluate at h
  simp only at h
  split at h
  · omega
  · cases h

/-- A carrier without records costs no more than its header, so one that was just made stays. -/
theorem evaluate_fresh {budget : Budget} {frameLength : Nat}
    (h : budget.evaluate frameLength none = .create) (overflowed : Bool) :
    budget.evaluate frameLength (some ⟨0, overflowed⟩) ≠ .discard ∧
      budget.evaluate frameLength (some ⟨0, overflowed⟩) ≠ .truncate := by
  have hheader : ¬ budget.limit < addLengths frameLength budget.initCost := by
    intro hlong
    rw [evaluate] at h
    simp only [if_pos hlong] at h
    cases h
  have hcurrent : addLengths (addLengths frameLength budget.initCost)
      (mulLengths 0 budget.recordSize) = addLengths frameLength budget.initCost := by
    unfold addLengths mulLengths
    omega
  unfold evaluate
  simp only [hcurrent, if_neg hheader]
  split
  · simp
  · split
    · simp
    · simp

theorem evaluate_none {budget : Budget} (hlimit : budget.limit < maxLength) (frameLength : Nat) :
    budget.evaluate frameLength none
      = if budget.limit < frameLength + budget.initCost then .skip else .create := by
  unfold evaluate
  simp only [lt_addLengths_iff hlimit]

/-- The decision about a carrier, by what the frame would come to. -/
theorem evaluate_some {budget : Budget} (hlimit : budget.limit < maxLength) (frameLength : Nat)
    (load : CarrierLoad) :
    budget.evaluate frameLength (some load)
      = if budget.limit < frameLength + budget.initCost then .discard
        else if budget.limit < frameLength + budget.telemetryCost load.records then .truncate
        else if load.overflowed then .hold false
        else if budget.limit < frameLength + budget.telemetryCost (load.records + 1) then .hold true
        else .accept
          ((budget.limit - (frameLength + budget.telemetryCost load.records))
            / budget.recordSize) := by
  have hheader := @lt_addLengths_iff _ frameLength budget.initCost hlimit
  have hcurrent : budget.limit < addLengths (addLengths frameLength budget.initCost)
        (mulLengths load.records budget.recordSize)
      ↔ budget.limit < frameLength + budget.telemetryCost load.records := by
    unfold addLengths mulLengths telemetryCost
    omega
  have hnext : budget.limit < addLengths (addLengths (addLengths frameLength budget.initCost)
        (mulLengths load.records budget.recordSize)) budget.recordSize
      ↔ budget.limit < frameLength + budget.telemetryCost (load.records + 1) := by
    unfold addLengths mulLengths telemetryCost
    rw [Nat.add_one_mul]
    omega
  unfold evaluate
  simp only [hheader, hcurrent, hnext]
  split
  · rfl
  · split
    · rfl
    · rename_i hfits
      have hexact : addLengths (addLengths frameLength budget.initCost)
            (mulLengths load.records budget.recordSize)
          = frameLength + budget.telemetryCost load.records := by
        unfold telemetryCost at hfits ⊢
        unfold addLengths mulLengths
        omega
      rw [hexact]

section

variable {budget : Budget} {frameLength : Nat} {load : CarrierLoad}

theorem le_of_truncate (hlimit : budget.limit < maxLength)
    (h : budget.evaluate frameLength (some load) = .truncate) :
    frameLength + budget.telemetryCost 0 ≤ budget.limit := by
  unfold telemetryCost
  refine Nat.le_of_not_lt fun hlong => ?_
  rw [evaluate_some hlimit, if_pos (by omega)] at h
  cases h

theorem le_of_hold (hlimit : budget.limit < maxLength) {overflow : Bool}
    (h : budget.evaluate frameLength (some load) = .hold overflow) :
    frameLength + budget.telemetryCost load.records ≤ budget.limit := by
  refine Nat.le_of_not_lt fun hlong => ?_
  rw [evaluate_some hlimit] at h
  split at h
  · cases h
  · cases h

/-- A record is accepted only if it fits with those that are there. -/
theorem le_of_accept (hlimit : budget.limit < maxLength) {slots : Nat}
    (h : budget.evaluate frameLength (some load) = .accept slots) :
    frameLength + budget.telemetryCost (load.records + 1) ≤ budget.limit := by
  refine Nat.le_of_not_lt fun hlong => ?_
  rw [evaluate_some hlimit] at h
  split at h
  · cases h
  · split at h
    · cases h
    · split at h
      · cases h
      · cases h

end

/-- The records that a frame of this length has room for. -/
def recordRoom (budget : Budget) (frameLength : Nat) : Nat :=
  (budget.limit - budget.initCost - frameLength) / budget.recordSize

section

variable {budget : Budget} {frameLength : Nat}

theorem fits_iff_le_recordRoom (hsize : 0 < budget.recordSize)
    (hheader : frameLength + budget.initCost ≤ budget.limit) (records : Nat) :
    frameLength + budget.telemetryCost records ≤ budget.limit
      ↔ records ≤ budget.recordRoom frameLength := by
  rw [recordRoom, Nat.le_div_iff_mul_le hsize]
  unfold telemetryCost
  omega

/-- A carrier that fits takes records until the room is used up, and is then marked once. -/
theorem evaluate_of_le_recordRoom (hlimit : budget.limit < maxLength)
    (hsize : 0 < budget.recordSize) (hheader : frameLength + budget.initCost ≤ budget.limit)
    {load : CarrierLoad} (hload : load.records ≤ budget.recordRoom frameLength) :
    ∃ slots, budget.evaluate frameLength (some load)
      = if load.overflowed then .hold false
        else if load.records < budget.recordRoom frameLength then .accept slots
        else .hold true := by
  have hcurrent := (fits_iff_le_recordRoom hsize hheader load.records).mpr hload
  have hnext := fits_iff_le_recordRoom hsize hheader (load.records + 1)
  rw [evaluate_some hlimit, if_neg (by omega), if_neg (by omega)]
  by_cases hroom : load.records < budget.recordRoom frameLength
  · rw [if_neg (Nat.not_lt.mpr (hnext.mpr hroom))]
    simp only [if_pos hroom]
    exact ⟨_, rfl⟩
  · rw [if_pos (Nat.lt_of_not_le (mt hnext.mp hroom))]
    simp only [if_neg hroom]
    exact ⟨0, trivial⟩

end

end Budget

/-- When a draw is not below the chance. No product is lost to rounding: that a quotient is at most
the draw is that the slots fall short of one draw more. A product that stops at the greatest word is
still too large for every draw and every distance. -/
theorem admissionPercent_le_iff {draw distance : Nat} (hdraw : draw < 100)
    (hdistance : distance ≤ 0xFFFF) (slots : Nat) :
    admissionPercent slots distance ≤ draw ↔ 100 * slots < (draw + 1) * max 1 distance := by
  have hpositive : 0 < max 1 distance := Nat.lt_of_lt_of_le Nat.one_pos (Nat.le_max_left 1 distance)
  have hproduct : (draw + 1) * max 1 distance ≤ 100 * 0xFFFF := by
    apply Nat.mul_le_mul
    · exact hdraw
    · exact Nat.max_le.mpr ⟨by decide, hdistance⟩
  rw [admissionPercent, ← Nat.lt_succ_iff, Nat.div_lt_iff_lt_mul hpositive, mulLengths, maxLength,
    Nat.succ_eq_add_one]
  omega

end MeshTelemetry
