import CanvasLint.Proofs.Number.FloatValue
import Mathlib.Algebra.Order.Field.Power
import Mathlib.Data.EReal.Operations
import Mathlib.Data.Int.Log

/-! Rounding to the nearest float, halves to even. The floats near a number form a grid, whose step
is by fifty-two places below the number, or the least step there is. Rounding takes the nearest point
of that grid, and though the grid changes with the number, rounding keeps the order. -/
namespace CanvasLint.Number

variable {n : ℕ} {e : ℤ} {v w : ℝ}

/-! ### Whole numbers -/

/-- The nearest whole number, the even one of two. -/
noncomputable def halfEven (v : ℝ) : ℕ :=
  if v < ⌊v⌋₊ + 1 / 2 then ⌊v⌋₊
  else if v = ⌊v⌋₊ + 1 / 2 then ⌊v⌋₊ + ⌊v⌋₊ % 2
  else ⌊v⌋₊ + 1

theorem floor_le_halfEven : ⌊v⌋₊ ≤ halfEven v := by
  rw [halfEven]
  split_ifs <;> omega

theorem halfEven_le_floor_add_one : halfEven v ≤ ⌊v⌋₊ + 1 := by
  rw [halfEven]
  split_ifs <;> omega

theorem halfEven_natCast (n : ℕ) : halfEven n = n := by
  rw [halfEven, Nat.floor_natCast, if_pos (by linarith)]

theorem halfEven_mono : Monotone halfEven := by
  intro v w le
  rcases (Nat.floor_mono le).lt_or_eq with apart | same
  · calc halfEven v ≤ ⌊v⌋₊ + 1 := halfEven_le_floor_add_one
      _ ≤ ⌊w⌋₊ := apart
      _ ≤ halfEven w := floor_le_halfEven
  · rw [halfEven, halfEven, same]
    by_cases below : v < ⌊w⌋₊ + 1 / 2
    · rw [if_pos below]
      split_ifs <;> omega
    · rw [if_neg below, if_neg (not_lt.mpr ((not_lt.mp below).trans le))]
      by_cases half : w = ⌊w⌋₊ + 1 / 2
      · rw [if_pos (le_antisymm (le.trans_eq half) (not_lt.mp below)), if_pos half]
      · rw [if_neg half]
        split_ifs <;> omega

theorem le_halfEven (le : (n : ℝ) ≤ v) : n ≤ halfEven v :=
  halfEven_natCast n ▸ halfEven_mono le

theorem halfEven_le (le : v ≤ n) : halfEven v ≤ n :=
  halfEven_natCast n ▸ halfEven_mono le

/-- The nearest whole number, the larger one of two. -/
noncomputable def halfUp (v : ℝ) : ℝ :=
  ⌊v + 1 / 2⌋₊

theorem halfUp_zero : halfUp 0 = 0 := by
  rw [halfUp, Nat.floor_eq_zero.mpr (by norm_num), Nat.cast_zero]

theorem halfUp_mono : Monotone halfUp := fun _ _ le =>
  Nat.cast_le.mpr (Nat.floor_mono (by linarith))

/-! ### Grids -/

/-- The exponent of the step between floats near this number. -/
noncomputable def gridOf (v : ℝ) : ℤ :=
  max (Int.log 2 v - 52) (-1074)

/-- The number of steps to the nearest point of the grid. -/
noncomputable def stepsOf (v : ℝ) : ℕ :=
  halfEven (v / 2 ^ gridOf v)

/-- The float nearest to a number that is not negative, if exponents had no upper end. -/
noncomputable def nearest (v : ℝ) : ℝ :=
  scaled (stepsOf v) (gridOf v)

theorem nearest_nonneg (v : ℝ) : 0 ≤ nearest v :=
  scaled_nonneg

theorem nearest_zero : nearest 0 = 0 := by
  have none : stepsOf 0 = 0 := by
    rw [stepsOf, zero_div]
    exact_mod_cast halfEven_natCast 0
  rw [nearest, none, scaled_zero]

theorem lt_zpow_gridOf (v : ℝ) : v < 2 ^ (53 + gridOf v) := by
  refine (Int.lt_zpow_succ_log_self one_lt_two v).trans_le ?_
  have fine : Int.log 2 v - 52 ≤ gridOf v := le_max_left _ _
  exact zpow_le_zpow_right₀ one_le_two (by omega)

/-- A number with fifty-two places above a step lies on no finer grid. -/
theorem le_gridOf (positive : 0 < v) (places : 2 ^ (52 + e) ≤ v) : e ≤ gridOf v := by
  have log : 52 + e ≤ Int.log 2 v := (Int.zpow_le_iff_le_log one_lt_two positive).mp places
  exact (by omega : e ≤ Int.log 2 v - 52).trans (le_max_left _ _)

theorem least_le_gridOf (v : ℝ) : -1074 ≤ gridOf v :=
  le_max_right _ _

theorem zpow_gridOf_le (positive : 0 < v) (coarse : -1074 < gridOf v) :
    2 ^ (52 + gridOf v) ≤ v := by
  refine le_trans ?_ (Int.zpow_log_le_self one_lt_two positive)
  have grid : gridOf v = Int.log 2 v - 52 := by
    rw [gridOf] at coarse ⊢
    omega
  exact zpow_le_zpow_right₀ one_le_two (by omega)

theorem stepsOf_le (v : ℝ) : stepsOf v ≤ 2 ^ 53 := by
  refine halfEven_le ((div_le_iff₀ (zpow_pos two_pos _)).mpr ?_)
  exact (lt_zpow_gridOf v).le.trans_eq (scaled_two_pow 53 _).symm

theorem le_stepsOf (positive : 0 < v) (coarse : -1074 < gridOf v) : 2 ^ 52 ≤ stepsOf v := by
  refine le_halfEven ((le_div_iff₀ (zpow_pos two_pos _)).mpr ?_)
  exact (scaled_two_pow 52 _).trans_le (zpow_gridOf_le positive coarse)

/-- No grid reaches beyond the points of a coarser one. -/
theorem nearest_mono (nonneg : 0 ≤ v) (le : v ≤ w) : nearest v ≤ nearest w := by
  rcases nonneg.eq_or_lt with rfl | positive
  · rw [nearest_zero]
    exact nearest_nonneg w
  · have grids : gridOf v ≤ gridOf w :=
      max_le_max_right _ (Int.sub_le_sub_right (Int.log_mono_right positive le) _)
    rcases grids.eq_or_lt with same | coarser
    · rw [nearest, nearest, ← same, scaled_le_scaled, stepsOf, stepsOf, ← same]
      exact halfEven_mono (div_le_div_of_nonneg_right le (zpow_pos two_pos _).le)
    · have coarse : -1074 < gridOf w := (le_max_right _ _).trans_lt coarser
      calc nearest v ≤ scaled (2 ^ 53) (gridOf v) := scaled_le_scaled.mpr (stepsOf_le v)
        _ = 2 ^ (53 + gridOf v) := scaled_two_pow 53 _
        _ ≤ 2 ^ (52 + gridOf w) := zpow_le_zpow_right₀ one_le_two (by omega)
        _ ≤ nearest w := zpow_le_scaled (le_stepsOf (positive.trans_le le) coarse)

/-! ### Errors -/

/-- The nearest whole number is half a unit away at most. -/
theorem abs_halfEven_sub_le (nonneg : 0 ≤ v) : |(halfEven v : ℝ) - v| ≤ 1 / 2 := by
  have below : (⌊v⌋₊ : ℝ) ≤ v := Nat.floor_le nonneg
  have above : v < ⌊v⌋₊ + 1 := Nat.lt_floor_add_one v
  rw [halfEven, abs_le]
  split_ifs with low half
  · constructor <;> linarith
  · -- either neighbour of a half is half a unit away
    rcases Nat.mod_two_eq_zero_or_one ⌊v⌋₊ with even | odd
    · rw [even]
      constructor <;> push_cast <;> linarith
    · rw [odd]
      constructor <;> push_cast <;> linarith
  · constructor <;> push_cast <;> linarith

/-- A number that has at most fifty-three places above a step is half this step away from its float
at most. -/
theorem abs_nearest_sub_le (nonneg : 0 ≤ v) (bounded : -1074 ≤ e) (less : v < 2 ^ (53 + e)) :
    |nearest v - v| ≤ 2 ^ e / 2 := by
  rcases nonneg.eq_or_lt with rfl | positive
  · rw [nearest_zero, sub_zero, abs_zero]
    positivity
  · have step : (0 : ℝ) < 2 ^ gridOf v := zpow_pos two_pos _
    have fine : (2 : ℝ) ^ gridOf v ≤ 2 ^ e := by
      have log : Int.log 2 v < 53 + e := (Int.lt_zpow_iff_log_lt one_lt_two positive).mp less
      exact zpow_le_zpow_right₀ one_le_two (max_le (by omega) bounded)
    have steps := abs_halfEven_sub_le (div_nonneg nonneg step.le)
    calc |nearest v - v| = |(stepsOf v - v / 2 ^ gridOf v) * 2 ^ gridOf v| := by
          rw [nearest, scaled_eq, sub_mul, div_mul_cancel₀ _ step.ne']
      _ = |stepsOf v - v / 2 ^ gridOf v| * 2 ^ gridOf v := by rw [abs_mul, abs_of_pos step]
      _ ≤ 1 / 2 * 2 ^ gridOf v := mul_le_mul_of_nonneg_right steps step.le
      _ ≤ 1 / 2 * 2 ^ e := mul_le_mul_of_nonneg_left fine (by norm_num)
      _ = 2 ^ e / 2 := by ring

/-! ### Signs and the ends of the line -/

/-- From this size on, there are no floats but the infinite ones. -/
noncomputable def limit : ℝ :=
  2 ^ (1024 : ℤ)

theorem limit_pos : 0 < limit :=
  zpow_pos two_pos _

/-- The number itself, or an end of the line from the limit on. -/
noncomputable def clip (v : ℝ) : EReal :=
  if limit ≤ v then ⊤ else if v ≤ -limit then ⊥ else v

theorem clip_of_limit_le (large : limit ≤ v) : clip v = ⊤ :=
  if_pos large

theorem clip_of_le_neg_limit (large : v ≤ -limit) : clip v = ⊥ := by
  have positive := limit_pos
  rw [clip, if_neg (by linarith), if_pos large]

theorem clip_of_abs_lt (small : |v| < limit) : clip v = v := by
  obtain ⟨low, high⟩ := abs_lt.mp small
  rw [clip, if_neg (not_le.mpr high), if_neg (not_le.mpr low)]

theorem clip_neg (v : ℝ) : clip (-v) = -clip v := by
  have positive := limit_pos
  rcases le_or_gt limit v with high | low
  · rw [clip_of_limit_le high, clip_of_le_neg_limit (neg_le_neg high), EReal.neg_top]
  · rcases le_or_gt v (-limit) with low' | high
    · rw [clip_of_le_neg_limit low', clip_of_limit_le (le_neg_of_le_neg low'), EReal.neg_bot]
    · have small : |v| < limit := abs_lt.mpr ⟨high, low⟩
      rw [clip_of_abs_lt small, clip_of_abs_lt ((abs_neg v).trans_lt small), EReal.coe_neg]

theorem clip_mono : Monotone clip := by
  intro v w le
  rw [clip, clip]
  split_ifs with high high' low' low high' low' high' low'
  · exact le_rfl
  · exact absurd (high.trans le) high'
  · exact absurd (high.trans le) high'
  · exact le_top
  · exact bot_le
  · exact bot_le
  · exact le_top
  · exact absurd (le.trans low') low
  · exact EReal.coe_le_coe_iff.mpr le

/-- A function of numbers that are not negative, continued so that it turns signs as its argument
does. -/
noncomputable def mirrored (f : ℝ → ℝ) (v : ℝ) : ℝ :=
  if 0 ≤ v then f v else -f (-v)

section Mirrored

variable {f : ℝ → ℝ}

theorem mirrored_of_nonneg (nonneg : 0 ≤ v) : mirrored f v = f v :=
  if_pos nonneg

theorem mirrored_neg (zero : f 0 = 0) (v : ℝ) : mirrored f (-v) = -mirrored f v := by
  rcases lt_trichotomy v 0 with negative | rfl | positive
  · rw [mirrored_of_nonneg (neg_nonneg.mpr negative.le), mirrored, if_neg (not_le.mpr negative),
      neg_neg]
  · rw [neg_zero, mirrored_of_nonneg le_rfl, zero, neg_zero]
  · rw [mirrored_of_nonneg positive.le, mirrored, if_neg (not_le.mpr (neg_neg_of_pos positive)),
      neg_neg]

theorem mirrored_mono (nonneg : ∀ v, 0 ≤ f v) (mono : ∀ v w, 0 ≤ v → v ≤ w → f v ≤ f w) :
    Monotone (mirrored f) := by
  intro v w le
  rw [mirrored, mirrored]
  split_ifs with above above' above'
  · exact mono v w above le
  · exact absurd (above.trans le) above'
  · exact (neg_nonpos.mpr (nonneg _)).trans (nonneg w)
  · exact neg_le_neg (mono _ _ (by linarith) (neg_le_neg le))

end Mirrored

/-- The number of the float that is nearest to a number. -/
noncomputable def rounded (v : ℝ) : EReal :=
  clip (mirrored nearest v)

theorem rounded_of_nonneg (nonneg : 0 ≤ v) : rounded v = clip (nearest v) := by
  rw [rounded, mirrored_of_nonneg nonneg]

theorem rounded_zero : rounded 0 = 0 := by
  rw [rounded_of_nonneg le_rfl, nearest_zero, clip_of_abs_lt (abs_zero.trans_lt limit_pos),
    EReal.coe_zero]

theorem rounded_neg (v : ℝ) : rounded (-v) = -rounded v := by
  rw [rounded, mirrored_neg nearest_zero, clip_neg, rounded]

theorem rounded_mono : Monotone rounded :=
  clip_mono.comp (mirrored_mono nearest_nonneg fun _ _ => nearest_mono)

/-- What keeps its sense at both ends of the line. -/
noncomputable def extend (f : ℝ → EReal) (a : EReal) : EReal :=
  if a = ⊤ then ⊤ else if a = ⊥ then ⊥ else f a.toReal

section Extend

variable {f : ℝ → EReal}

@[simp]
theorem extend_top : extend f ⊤ = ⊤ :=
  if_pos rfl

@[simp]
theorem extend_bot : extend f ⊥ = ⊥ := by
  rw [extend, if_neg bot_ne_top, if_pos rfl]

@[simp]
theorem extend_coe (v : ℝ) : extend f v = f v := by
  rw [extend, if_neg (EReal.coe_ne_top v), if_neg (EReal.coe_ne_bot v), EReal.toReal_coe]

theorem extend_zero : extend rounded 0 = 0 := by
  rw [← EReal.coe_zero, extend_coe, rounded_zero, EReal.coe_zero]

theorem extend_mono (mono : Monotone f) : Monotone (extend f) := by
  intro a b le
  induction a with
  | bot => exact extend_bot.trans_le bot_le
  | top => rw [top_le_iff.mp le]
  | coe v =>
    induction b with
    | bot => exact absurd le (not_le.mpr (EReal.bot_lt_coe v))
    | top => exact le_top.trans_eq extend_top.symm
    | coe w =>
      rw [extend_coe, extend_coe]
      exact mono (EReal.coe_le_coe_iff.mp le)

end Extend

end CanvasLint.Number
