import CanvasLint.Proofs.Number.Percentage
import CanvasLint.Report.Report

/-! Scores. The score is the percentage of rules that passed, rounded to the nearest whole number with
halves going up, but for four percentages: they end in a half, and the floats on the way to them lie
below it, so they are rounded down. -/
namespace CanvasLint.Report

open Number (percentage)

variable {passed total passed' total' : ℕ} {fs : List Finding}

/-- The nearest whole number to the percentage of passed rules, halves going up. Where there are no
rules nothing has failed. -/
def roundedPercentage (passed total : Nat) : Nat :=
  if total = 0 then 100 else (200 * passed + total) / (2 * total)

/-- Twice the percentages that end in a half and come out below it. -/
def sinkingHalves : List Nat :=
  [29, 57, 113, 115]

/-- The percentage of passed rules comes out below the half in which it ends. -/
def Sinks (passed total : Nat) : Prop :=
  0 < total ∧ ∃ twice ∈ sinkingHalves, 200 * passed = twice * total

instance (passed total : Nat) : Decidable (Sinks passed total) :=
  inferInstanceAs (Decidable (_ ∧ _))

/-! ### Floats -/

theorem scoreOf_eq_floor (pos : 0 < total) (le : passed ≤ total) (small : total < 2 ^ 53) :
    scoreOf passed total = ⌊percentage (passed / total) + 1 / 2⌋₊ := by
  have part : (passed : ℝ) / total ≤ 1 :=
    (div_le_one (Nat.cast_pos.mpr pos)).mpr (Nat.cast_le.mpr le)
  have share : (0 : ℝ) ≤ passed / total := div_nonneg passed.cast_nonneg total.cast_nonneg
  have bounded := Number.percentage_le share part
  rw [scoreOf, if_neg pos.ne']
  apply Number.toNat_nearestByte (Number.number?_percentage pos le small)
  · exact Number.percentage_nonneg _
  · linarith

/-- The score of a share does not depend on how many rules it is a share of. -/
theorem scoreOf_eq_of_share_eq (pos : 0 < total) (le : passed ≤ total) (small : total < 2 ^ 53)
    (pos' : 0 < total') (small' : total' < 2 ^ 53) (same : passed * total' = passed' * total) :
    scoreOf passed total = scoreOf passed' total' := by
  have le' : passed' ≤ total' := by
    apply Nat.le_of_mul_le_mul_right _ pos
    calc passed' * total = passed * total' := same.symm
      _ ≤ total * total' := Nat.mul_le_mul_right _ le
      _ = total' * total := Nat.mul_comm _ _
  have share : (passed : ℝ) / total = passed' / total' := by
    rw [div_eq_div_iff (Nat.cast_ne_zero.mpr pos.ne') (Nat.cast_ne_zero.mpr pos'.ne')]
    exact_mod_cast same
  rw [scoreOf_eq_floor pos le small, scoreOf_eq_floor pos' le' small', share]

/-- A percentage that does not end in a half is so far away from all that do that the floats cannot
cross one. -/
theorem scoreOf_eq_of_not_dvd (le : passed ≤ total) (few : total ≤ 2 ^ 44)
    (apart : ¬ 2 * total ∣ 200 * passed + total) :
    scoreOf passed total = (200 * passed + total) / (2 * total) := by
  have pos : 0 < total := by
    rcases total.eq_zero_or_pos with rfl | pos
    · obtain rfl := Nat.le_zero.mp le
      simp at apart
    · exact pos
  have positive : (0 : ℝ) < total := Nat.cast_pos.mpr pos
  have error := Number.abs_percentage_sub_lt (v := passed / total)
    (div_nonneg passed.cast_nonneg total.cast_nonneg)
    ((div_le_one positive).mpr (Nat.cast_le.mpr le))
  have exact : ((200 * passed + total : ℕ) : ℝ) / (2 * total : ℕ) =
      passed / total * 100 + 1 / 2 := by
    push_cast
    field_simp
    ring
  have coarse : (1 : ℝ) / 2 ^ 45 ≤ 1 / (2 * total : ℕ) := by
    have few' : (total : ℝ) ≤ 2 ^ 44 := by exact_mod_cast few
    apply one_div_le_one_div_of_le <;> push_cast
    · positivity
    · linarith
  rw [scoreOf_eq_floor pos le (few.trans_lt (by norm_num))]
  apply Number.floor_eq_div_of_near (by omega) apart
  · linarith [Number.percentage_nonneg (passed / total : ℝ)]
  · rw [exact, add_sub_add_right_eq_sub]
    exact error.trans_le coarse

/-- All the percentages that end in a half. -/
theorem scoreOf_half : ∀ k < 100, scoreOf (2 * k + 1) 200 =
    if 2 * k + 1 ∈ sinkingHalves then k else k + 1 := by
  decide +kernel

/-! ### Scores -/

theorem not_sinks_of_not_dvd (apart : ¬ 2 * total ∣ 200 * passed + total) :
    ¬ Sinks passed total := by
  rintro ⟨-, twice, sinking, same⟩
  have odd : twice % 2 = 1 := by
    have all : ∀ m ∈ sinkingHalves, m % 2 = 1 := by decide
    exact all twice sinking
  obtain ⟨k, rfl⟩ : ∃ k, twice = 2 * k + 1 := ⟨twice / 2, by omega⟩
  apply apart
  refine ⟨k + 1, ?_⟩
  rw [same]
  ring

/-- A percentage that ends in a half is rounded up, unless it sinks. -/
theorem scoreOf_of_dvd (pos : 0 < total) (le : passed ≤ total) (few : total ≤ 2 ^ 44)
    (half : 2 * total ∣ 200 * passed + total) :
    (¬ Sinks passed total → scoreOf passed total = (200 * passed + total) / (2 * total)) ∧
      (Sinks passed total → scoreOf passed total + 1 = (200 * passed + total) / (2 * total)) := by
  obtain ⟨score, whole⟩ := half
  obtain ⟨k, rfl⟩ : ∃ k, score = k + 1 := by
    refine Nat.exists_eq_succ_of_ne_zero ?_
    rintro rfl
    omega
  have same : 200 * passed = (2 * k + 1) * total := by linarith
  have small : k < 100 := by
    have bound : (2 * k + 1) * total ≤ 200 * total := same ▸ Nat.mul_le_mul_left 200 le
    have odd := Nat.le_of_mul_le_mul_right bound pos
    omega
  have known : scoreOf passed total = if 2 * k + 1 ∈ sinkingHalves then k else k + 1 := by
    rw [← scoreOf_half k small]
    apply scoreOf_eq_of_share_eq pos le (few.trans_lt (by norm_num)) (by norm_num) (by norm_num)
    rw [mul_comm, same]
  have sinks : Sinks passed total ↔ 2 * k + 1 ∈ sinkingHalves := by
    constructor
    · rintro ⟨-, twice, sinking, same'⟩
      rwa [Nat.eq_of_mul_eq_mul_right pos (same.symm.trans same')]
    · intro sinking
      exact ⟨pos, 2 * k + 1, sinking, same⟩
  rw [sinks, known, whole, Nat.mul_div_cancel_left _ (by omega)]
  constructor
  · intro stays
    rw [if_neg stays]
  · intro sinking
    rw [if_pos sinking]

theorem scoreOf_eq (le : passed ≤ total) (few : total ≤ 2 ^ 44) :
    (¬ Sinks passed total → scoreOf passed total = roundedPercentage passed total) ∧
      (Sinks passed total → scoreOf passed total + 1 = roundedPercentage passed total) := by
  rcases total.eq_zero_or_pos with rfl | pos
  · exact ⟨fun _ => rfl, fun sinks => absurd sinks.1 (lt_irrefl 0)⟩
  · rw [roundedPercentage, if_neg pos.ne']
    by_cases half : 2 * total ∣ 200 * passed + total
    · exact scoreOf_of_dvd pos le few half
    · exact ⟨fun _ => scoreOf_eq_of_not_dvd le few half,
        fun sinks => absurd sinks (not_sinks_of_not_dvd half)⟩

/-- The number of findings that passed. -/
def passedCount (fs : List Finding) : Nat :=
  (fs.filter (·.status = .passed)).length

/-- Of no more findings than a memory can hold, the score is the rounded percentage of those that
passed if and only if this percentage does not sink. If it does, the score is one less. -/
theorem score_ofFindings_iff (few : fs.length ≤ 2 ^ 44) (count : Nat) :
    ((ofFindings fs count).score = roundedPercentage (passedCount fs) fs.length ↔
        ¬ Sinks (passedCount fs) fs.length) ∧
      (Sinks (passedCount fs) fs.length →
        (ofFindings fs count).score + 1 = roundedPercentage (passedCount fs) fs.length) := by
  have le : passedCount fs ≤ fs.length := List.length_filter_le _ fs
  obtain ⟨stays, sinks⟩ := scoreOf_eq le few
  refine ⟨⟨?_, stays⟩, sinks⟩
  intro same sinking
  have lower : (ofFindings fs count).score + 1 = _ := sinks sinking
  omega

/-- Findings of which the first so many passed and the rest are warnings. -/
def mixedFindings (passed warnings : Nat) : List Finding :=
  List.replicate passed ⟨"contrast", "Text has a color", .passed, "All text has a color", [], false⟩
    ++ List.replicate warnings ⟨"heading", "Have a heading", .warning, "No heading found", [], false⟩

/-- Of forty findings twenty-one are a percentage that ends in a half and does not sink. -/
theorem score_ofFindings_iff_twentyOne : (mixedFindings 21 19).length ≤ 2 ^ 44 ∧
    (ofFindings (mixedFindings 21 19) 1).score = 53 := by
  have few : (mixedFindings 21 19).length ≤ 2 ^ 44 := by decide
  exact ⟨few, (score_ofFindings_iff few 1).1.mpr (by decide)⟩

/-- Twenty-three of forty are one that sinks. -/
theorem score_sinks_twentyThree : (mixedFindings 23 17).length = 40 ∧
    passedCount (mixedFindings 23 17) = 23 ∧ (ofFindings (mixedFindings 23 17) 1).score = 57 ∧
      roundedPercentage 23 40 = 58 := by
  decide +kernel

end CanvasLint.Report
