import CanvasLint.Proofs.Number.Operations
import Mathlib.Algebra.Order.Floor.Semifield

/-! Rounding floats to two decimals. Scaling by a hundred, taking the nearest whole number and
scaling back each keep the order of the numbers that floats stand for, so all of it does. -/
namespace CanvasLint.Number

variable {x y : Float}

/-! ### Whole numbers -/

theorem nearestNat_eq (d : Dyadic) : d.nearestNat = halfUp (scaled d.significand d.exponent) := by
  obtain ⟨_, m, e⟩ := d
  rw [Dyadic.nearestNat, halfUp, Nat.cast_inj]
  cases e with
  | ofNat e =>
    have whole : scaled m (.ofNat e) = (m * twoTo e : ℕ) := by
      rw [scaled_eq, Int.ofNat_eq_natCast, zpow_natCast, twoTo, Nat.cast_mul, Nat.pow_eq, Nat.cast_pow,
        Nat.cast_ofNat]
    have half : ⌊(1 / 2 : ℝ)⌋₊ = 0 := Nat.floor_eq_zero.mpr (by norm_num)
    dsimp only
    rw [whole, add_comm, Nat.floor_add_natCast (by norm_num), half, zero_add]
  | negSucc e =>
    have parts : scaled m (.negSucc e) + 1 / 2 =
        (2 * m + twoTo (e + 1) : ℕ) / (twoTo (e + 2) : ℕ) := by
      rw [scaled_eq, zpow_negSucc, twoTo, twoTo, Nat.pow_eq, Nat.pow_eq]
      push_cast
      rw [pow_succ 2 (e + 1)]
      field_simp
    rw [parts, Nat.floor_div_eq_div]

/-- The sign of a significand is that of its number. -/
theorem number?_signed (negative : Bool) (n : ℕ) :
    number? (signed negative n) = some (rounded (if negative then -n else n)) := by
  cases negative with
  | false => exact number?_ofNat n
  | true =>
    rw [signed, if_pos rfl, if_pos rfl, number?_neg, number?_ofNat, Option.map_some, rounded_neg]

theorem number?_roundHalfAway :
    number? (roundHalfAway x) = (number? x).map (extend (rounded ∘ mirrored halfUp)) := by
  rw [roundHalfAway]
  cases finite : Dyadic.ofFloat? x with
  | none =>
    dsimp only
    cases hx : number? x with
    | none => rfl
    | some a =>
      rcases eq_top_or_eq_bot finite hx with rfl | rfl
      · rw [Option.map_some, extend_top]
      · rw [Option.map_some, extend_bot]
  | some d =>
    have nonneg : 0 ≤ scaled d.significand d.exponent := scaled_nonneg
    dsimp only
    rw [number?_signed, nearestNat_eq, number?_of_ofFloat? finite, Option.map_some, extend_coe,
      Function.comp_apply, Dyadic.number]
    split
    · rw [neg_one_mul, mirrored_neg halfUp_zero, mirrored_of_nonneg nonneg]
    · rw [one_mul, mirrored_of_nonneg nonneg]

/-! ### Hundredths -/

theorem number?_hundred : number? 100 = some ((100 : ℝ) : EReal) := by
  have exact : rounded (100 : ℕ) = ((100 : ℕ) : ℝ) := rounded_natCast (by decide)
  rw [Nat.cast_ofNat] at exact
  exact (number?_ofNat 100).trans (congrArg some exact)

/-- The number of a float that has been rounded to two decimals. -/
noncomputable def hundredths (a : EReal) : EReal :=
  extend rounded (extend (rounded ∘ mirrored halfUp) (extend rounded (a * (100 : ℝ))) / (100 : ℝ))

theorem number?_toHundredths : number? (toHundredths x) = (number? x).map hundredths := by
  have nonzero : (100 : ℝ) ≠ 0 := by norm_num
  rw [toHundredths, number?_div number?_hundred nonzero, number?_roundHalfAway,
    number?_mul number?_hundred nonzero, Option.map_map, Option.map_map]
  rfl

theorem hundredths_mono : Monotone hundredths := by
  have nonneg : (0 : EReal) ≤ (100 : ℝ) := EReal.coe_nonneg.mpr (by norm_num)
  have whole : Monotone (mirrored halfUp) :=
    mirrored_mono (fun _ => Nat.cast_nonneg _) fun _ _ _ le => halfUp_mono le
  intro a b le
  refine extend_mono rounded_mono (EReal.div_le_div_right_of_nonneg nonneg ?_)
  refine extend_mono (rounded_mono.comp whole) (extend_mono rounded_mono ?_)
  exact mul_le_mul_of_nonneg_right le nonneg

theorem toHundredths_mono (le : x ≤ y) : toHundredths x ≤ toHundredths y := by
  obtain ⟨a, b, hx, hy, le⟩ := le_iff.mp le
  refine le_iff.mpr ⟨hundredths a, hundredths b, ?_, ?_, hundredths_mono le⟩
  · rw [number?_toHundredths, hx, Option.map_some]
  · rw [number?_toHundredths, hy, Option.map_some]

end CanvasLint.Number
