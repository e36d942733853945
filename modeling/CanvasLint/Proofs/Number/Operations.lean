import CanvasLint.Proofs.Number.Rounding
import Mathlib.Data.EReal.Inv

/-! Operations on floats by the numbers of their operands. A product, a quotient, and the float of a
whole number are the exact results rounded once. -/
namespace CanvasLint.Number

open Float.Model (Format UnpackedFloat totalExponent)
open Float.Model.UnpackedFloat

variable {m m' r d : ℕ} {e e' : ℤ} {w : ℝ} {x y : Float}

theorem factor_mul (s s' : Sign) : factor (s * s') = factor s * factor s' := by
  cases s <;> cases s'
  · exact (show (1 : ℝ) = -1 * -1 by norm_num)
  · exact (show (-1 : ℝ) = -1 * 1 by norm_num)
  · exact (show (-1 : ℝ) = 1 * -1 by norm_num)
  · exact (show (1 : ℝ) = 1 * 1 by norm_num)

theorem factor_neg (s : Sign) : factor (-s) = -factor s := by
  cases s
  · exact (neg_neg (1 : ℝ)).symm
  · rfl

theorem factor_inv (s : Sign) : (factor s)⁻¹ = factor s := by
  cases s
  · exact (show (-1 : ℝ)⁻¹ = -1 by norm_num)
  · exact inv_one

theorem sign_div (s s' : Sign) : s / s' = s * s' := by
  cases s <;> cases s' <;> rfl

/-! ### Products -/

theorem approximates_mul (c : Canonical m e) (c' : Canonical m' e') (pos : 0 < m) (pos' : 0 < m') :
    Approximates (m * m') (e + e') .exact (scaled m e * scaled m' e') := by
  have product : scaled m e * scaled m' e' = scaled (m * m') (e + e') := by
    rw [scaled_eq, scaled_eq, scaled_eq, zpow_add₀ two_ne_zero, Nat.cast_mul]
    ring
  have positive : 0 < scaled (m * m') (e + e') := scaled_pos (Nat.mul_pos pos pos')
  rw [product]
  refine ⟨positive, ?_, ?_⟩
  · rw [scaled_eq, mul_div_cancel_right₀ _ (zpow_pos two_pos _).ne']
    exact begins_exact _
  · by_cases full : 2 ^ 52 ≤ m * m'
    · exact le_gridOf positive (zpow_le_scaled full)
    · -- neither factor has all its places
      have least : e = -1074 := c.full.resolve_left fun all =>
        full (all.trans (Nat.le_mul_of_pos_right m pos'))
      have least' : e' = -1074 := c'.full.resolve_left fun all =>
        full (all.trans (Nat.le_mul_of_pos_left m' pos))
      have := least_le_gridOf (scaled (m * m') (e + e'))
      omega

/-- An infinite float stays infinite by a factor, which may turn its sign. -/
private theorem numberOf?_infinity_mul (f : ℝ → EReal) {r : ℝ} (positive : 0 < r) (s s' : Sign) :
    numberOf? (.infinity (s * s')) =
      (numberOf? (.infinity s)).map fun a => extend f (a * (factor s' * r : ℝ)) := by
  have above : 0 < factor .positive * r := (one_mul r).symm ▸ positive
  have below : factor .negative * r < 0 := (neg_one_mul r).symm ▸ neg_lt_zero.mpr positive
  cases s <;> cases s' <;> refine congrArg some (Eq.symm ?_)
  · exact (congrArg (extend f) (EReal.bot_mul_coe_of_neg below)).trans extend_top
  · exact (congrArg (extend f) (EReal.bot_mul_coe_of_pos above)).trans extend_bot
  · exact (congrArg (extend f) (EReal.top_mul_coe_of_neg below)).trans extend_bot
  · exact (congrArg (extend f) (EReal.top_mul_coe_of_pos above)).trans extend_top

theorem number?_mul (hy : number? y = some (w : EReal)) (nonzero : w ≠ 0) :
    number? (x * y) = (number? x).map fun a => extend rounded (a * w) := by
  have cx := unpacked x
  have cy := unpacked y
  change numberOf? (repack (mul Format.binary64 x.toModel.unpack y.toModel.unpack)) =
    (numberOf? x.toModel.unpack).map _
  obtain ⟨s', m', e', pos', same, rfl⟩ := exists_finite hy nonzero
  rw [same] at cy ⊢
  generalize x.toModel.unpack = u at cx ⊢
  cases u with
  | notANumber => exact numberOf?_repack_notANumber
  | infinity s =>
    exact (numberOf?_repack_infinity (s * s')).trans
      (numberOf?_infinity_mul rounded (scaled_pos pos') s s')
  | zero s =>
    refine (numberOf?_repack_zero (s * s')).trans ?_
    rw [numberOf?_zero, Option.map_some, EReal.coe_zero, zero_mul, extend_zero]
  | finite s m e pos =>
    refine ((approximates_mul cx.1 cy.1 pos pos').numberOf?_repack (s * s')).trans ?_
    rw [numberOf?_finite, Option.map_some, ← EReal.coe_mul, extend_coe, factor_mul,
      mul_mul_mul_comm]

/-! ### Quotients -/

private theorem begins_inexact {q : ℝ} (positive : 0 < q) (part : q < 1) (m : ℕ) :
    Begins (.ofMantissaAndAccuracy m (.inexact (cmp q (1 / 2)))) (m + q) := by
  have lower : (m : ℝ) ≤ m + q := le_add_of_nonneg_right positive.le
  have upper : (m : ℝ) + q < m + 1 := by linarith
  have more : (m : ℝ) + q ≠ m := by linarith
  rcases lt_trichotomy q (1 / 2) with low | half | high
  · have below : (m : ℝ) + q < m + 1 / 2 := by linarith
    rw [(cmp_eq_lt_iff _ _).mpr low]
    exact ⟨lower, upper, ⟨nofun, fun half => absurd half (not_le.mpr below)⟩,
      ⟨fun _ => ⟨more, below.ne⟩, fun _ => rfl⟩⟩
  · have same : (m : ℝ) + q = m + 1 / 2 := by rw [half]
    rw [half, cmp_self_eq_eq, ← half]
    exact ⟨lower, upper, ⟨fun _ => same.ge, fun _ => rfl⟩,
      ⟨nofun, fun ⟨_, apart⟩ => absurd same apart⟩⟩
  · have above : (m : ℝ) + 1 / 2 < m + q := by linarith
    rw [(cmp_eq_gt_iff _ _).mpr high]
    exact ⟨lower, upper, ⟨fun _ => above.le, fun _ => rfl⟩,
      ⟨fun _ => ⟨more, above.ne'⟩, fun _ => rfl⟩⟩

/-- A quotient of whole numbers, with what its remainder tells. -/
theorem begins_fraction (m : ℕ) (small : r < d) :
    Begins (.ofMantissaAndAccuracy m (accuracyOfFraction r d)) (m + r / d) := by
  have divisor : (0 : ℝ) < d := Nat.cast_pos.mpr (r.zero_le.trans_lt small)
  rw [accuracyOfFraction]
  split
  · rename_i none
    rw [none, Nat.cast_zero, zero_div, add_zero]
    exact begins_exact m
  · rename_i more
    have half : compare (2 * r) d = cmp ((r : ℝ) / d) (1 / 2) := by
      have mono : StrictMono fun k : ℕ => (k : ℝ) / (2 * d) := fun _ _ less =>
        div_lt_div_of_pos_right (Nat.cast_lt.mpr less) (mul_pos two_pos divisor)
      rw [compare_nat, ← mono.cmp_map_eq, Nat.cast_mul, Nat.cast_ofNat,
        mul_div_mul_left _ _ two_ne_zero, div_mul_cancel_right₀ divisor.ne', one_div]
    rw [half]
    exact begins_inexact (div_pos (Nat.cast_pos.mpr (Nat.pos_of_ne_zero more)) divisor)
      ((div_lt_one divisor).mpr (Nat.cast_lt.mpr small)) m

private theorem natCast_div (k : ℕ) (positive : 0 < d) :
    (k : ℝ) / d = (k / d : ℕ) + (k % d : ℕ) / d := by
  have divisor : (d : ℝ) ≠ 0 := Nat.cast_ne_zero.mpr positive.ne'
  rw [div_eq_iff divisor, add_mul, div_mul_cancel₀ _ divisor]
  exact_mod_cast (Nat.div_add_mod' k d).symm

theorem approximates_div (e e' : ℤ) (pos : 0 < m) (pos' : 0 < m') :
    let (q, t, accuracy) := divCore Format.binary64 m e m' e'
    Approximates q t accuracy (scaled m e / scaled m' e') := by
  have positive : 0 < scaled m e / scaled m' e' := div_pos (scaled_pos pos) (scaled_pos pos')
  rw [divCore]
  dsimp only
  generalize target : min (e - e') (Format.binary64.targetExponent _) = t
  have shift : ((e - e' - t).toNat : ℤ) = e - e' - t := by omega
  refine ⟨positive, ?_, ?_⟩
  · have whole : scaled m e / scaled m' e' / 2 ^ t = (m <<< (e - e' - t).toNat : ℕ) / m' := by
      rw [Nat.shiftLeft_eq, Nat.cast_mul, Nat.cast_pow, Nat.cast_ofNat, ← zpow_natCast, shift,
        zpow_sub₀ two_ne_zero, zpow_sub₀ two_ne_zero, scaled_eq, scaled_eq]
      field_simp
    rw [whole, natCast_div _ pos']
    exact begins_fraction _ (Nat.mod_lt _ pos')
  · have most : t ≤ max (totalExponent m e - totalExponent m' e' - 53) (-1074) :=
      target.symm.trans_le (min_le_right _ _)
    refine most.trans (max_le (le_gridOf positive ?_) (least_le_gridOf _))
    have places : 52 + (totalExponent m e - totalExponent m' e' - 53) =
        m.log2 + e - (m'.log2 + 1 + e') := by
      rw [totalExponent, totalExponent]
      omega
    rw [places, le_div_iff₀ (scaled_pos pos')]
    calc (2 : ℝ) ^ (m.log2 + e - (m'.log2 + 1 + e')) * scaled m' e'
        ≤ 2 ^ (m.log2 + e - (m'.log2 + 1 + e')) * 2 ^ (m'.log2 + 1 + e') :=
          mul_le_mul_of_nonneg_left scaled_lt_zpow_log2.le (zpow_pos two_pos _).le
      _ = 2 ^ (m.log2 + e) := by rw [← zpow_add₀ two_ne_zero, sub_add_cancel]
      _ ≤ scaled m e := zpow_log2_le_scaled pos

theorem number?_div (hy : number? y = some (w : EReal)) (nonzero : w ≠ 0) :
    number? (x / y) = (number? x).map fun a => extend rounded (a / (w : EReal)) := by
  change numberOf? (repack (div Format.binary64 x.toModel.unpack y.toModel.unpack)) =
    (numberOf? x.toModel.unpack).map _
  obtain ⟨s', m', e', pos', same, rfl⟩ := exists_finite hy nonzero
  rw [same]
  generalize x.toModel.unpack = u
  cases u with
  | notANumber => exact numberOf?_repack_notANumber
  | infinity s =>
    have inverse : (factor s' * scaled m' e')⁻¹ = factor s' * (scaled m' e')⁻¹ := by
      rw [mul_inv, factor_inv]
    refine (numberOf?_repack_infinity (s / s')).trans ?_
    simp only [div_eq_mul_inv, ← EReal.coe_inv, inverse]
    rw [sign_div]
    exact numberOf?_infinity_mul rounded (inv_pos.mpr (scaled_pos pos')) s s'
  | zero s =>
    refine (numberOf?_repack_zero (s / s')).trans ?_
    rw [numberOf?_zero, Option.map_some, EReal.coe_zero, EReal.zero_div, extend_zero]
  | finite s m e pos =>
    have near := approximates_div e e' pos pos'
    refine (near.numberOf?_repack (s / s')).trans ?_
    rw [numberOf?_finite, Option.map_some, ← EReal.coe_div, extend_coe, sign_div, factor_mul,
      mul_div_mul_comm, div_eq_mul_inv (factor s), factor_inv]

/-! ### Opposites and whole numbers -/

theorem number?_neg : number? (-x) = (number? x).map fun a => -a := by
  have cx := unpacked x
  change numberOf? (repack x.toModel.unpack.neg) = (numberOf? x.toModel.unpack).map _
  generalize x.toModel.unpack = u at cx ⊢
  cases u with
  | notANumber => exact numberOf?_repack_notANumber
  | infinity s =>
    refine (numberOf?_repack_infinity (-s)).trans ?_
    cases s <;> refine congrArg some (Eq.symm ?_)
    · exact EReal.neg_bot
    · exact EReal.neg_top
  | zero s =>
    refine (numberOf?_repack_zero (-s)).trans ?_
    rw [numberOf?_zero, Option.map_some, EReal.coe_zero, neg_zero]
  | finite s m e pos =>
    refine (congrArg numberOf? (unpack_pack cx.1 pos cx.2 (-s))).trans ?_
    rw [numberOf?_finite, numberOf?_finite, Option.map_some, ← EReal.coe_neg, ← neg_mul,
      factor_neg]

/-- Whole numbers of up to fifty-three places are floats. -/
theorem nearest_natCast {n : ℕ} (small : n < 2 ^ 53) : nearest n = n := by
  rcases n.eq_zero_or_pos with rfl | pos
  · rw [Nat.cast_zero, nearest_zero]
  · have positive : (0 : ℝ) < n := Nat.cast_pos.mpr pos
    have log : Int.log 2 (n : ℝ) < 53 :=
      (Int.lt_zpow_iff_log_lt one_lt_two positive).mp (by exact_mod_cast small)
    have fine : gridOf n ≤ 0 := max_le (by omega) (by decide)
    have steps : (n : ℝ) / 2 ^ gridOf n = (n * 2 ^ (-gridOf n).toNat : ℕ) := by
      rw [div_eq_mul_inv, ← zpow_neg, Nat.cast_mul, Nat.cast_pow, Nat.cast_ofNat, ← zpow_natCast,
        Int.toNat_of_nonneg (by omega)]
    rw [nearest, stepsOf, steps, halfEven_natCast, scaled_eq, ← steps,
      div_mul_cancel₀ _ (zpow_pos two_pos _).ne']

theorem rounded_natCast {n : ℕ} (small : n < 2 ^ 53) : rounded n = (n : ℝ) := by
  have inside : (n : ℝ) < limit :=
    calc (n : ℝ) < 2 ^ (53 : ℤ) := by exact_mod_cast small
      _ ≤ limit := zpow_le_zpow_right₀ one_le_two (by decide)
  rw [rounded_of_nonneg n.cast_nonneg, nearest_natCast small, clip_of_abs_lt]
  rwa [Nat.abs_cast]

private theorem approximates_natCast {n : ℕ} (pos : 0 < n) (k : ℕ) (fine : -(k : ℤ) ≤ gridOf n) :
    Approximates (n <<< k) (-k) .exact n := by
  refine ⟨Nat.cast_pos.mpr pos, ?_, fine⟩
  have whole : (n : ℝ) / 2 ^ (-k : ℤ) = (n <<< k : ℕ) := by
    rw [zpow_neg, div_inv_eq_mul, zpow_natCast, Nat.shiftLeft_eq, Nat.cast_mul, Nat.cast_pow,
      Nat.cast_ofNat]
  rw [whole]
  exact begins_exact _

private theorem log2_sub_le_gridOf {n : ℕ} (pos : 0 < n) : (n.log2 : ℤ) - 52 ≤ gridOf n := by
  refine le_gridOf (Nat.cast_pos.mpr pos) ?_
  have places := zpow_log2_le_scaled (e := 0) pos
  rw [scaled_eq, zpow_zero, mul_one] at places
  convert places using 2
  omega

theorem number?_toFloat {n : ℕ} (small : n < 2 ^ 53) :
    number? n.toUInt64.toFloat = some (rounded n) := by
  change numberOf? (repack (ofNat Format.binary64 n.toUInt64.toNat)) = _
  have same : n.toUInt64.toNat = n := UInt64.toNat_ofNat_of_lt (small.trans (by decide))
  rw [same, ofNat, ofInt, UnpackedFloat.normalize]
  rcases n.eq_zero_or_pos with rfl | pos
  · change numberOf? (repack (.zero .positive)) = _
    rw [numberOf?_repack_zero, Nat.cast_zero, rounded_zero]
  · rw [compare_gt_iff_gt.mpr (Int.natCast_pos.mpr pos)]
    dsimp only
    rw [Int.toNat_natCast, UnpackedFloat.round, decreaseExponent]
    dsimp only
    rw [zero_sub, zero_sub]
    have fine : -((-Format.binary64.targetExponent (totalExponent n 0)).toNat : ℤ) ≤ gridOf n := by
      have log := log2_sub_le_gridOf pos
      have least := least_le_gridOf n
      rw [targetExponent_eq_max, totalExponent]
      omega
    rw [(approximates_natCast pos _ fine).numberOf?_repack, factor, one_mul]

private theorem number?_one :
    number? Float.exactlyRepresentablePowersOfTen[0] = some ((1 : ℝ) : EReal) := by
  have one : Dyadic.ofFloat? Float.exactlyRepresentablePowersOfTen[0] =
      some ⟨false, 2 ^ 52, -52⟩ := by
    decide +kernel
  rw [number?_of_ofFloat? one, Dyadic.number_mk_false, scaled_two_pow]
  norm_num

/-- Digits with a power of ten, where they are not one product of two exact floats. -/
theorem number?_ofScientific {n power : ℕ} (large : ¬ (n < 2 ^ 53 ∧ power ≤ 22)) (pos : 0 < n)
    (room : power ≤ 2 ^ 11) :
    number? (Float.ofScientific n false power) = some (rounded (n * 10 ^ power : ℕ)) := by
  have below : ¬ (power : ℤ) > 2 ^ Format.binary64.exponentBits := by
    have places : (2 : ℤ) ^ Format.binary64.exponentBits = 2 ^ 11 := rfl
    omega
  have inside : ¬ (power : ℤ) < -((2 ^ Format.binary64.exponentBits : ℤ) + n.log2) := by
    have positive : (0 : ℤ) < 2 ^ Format.binary64.exponentBits := by decide
    omega
  have total : 0 < n * 10 ^ power := Nat.mul_pos pos (Nat.pow_pos (by decide))
  have fine : -((53 : ℕ) : ℤ) ≤ gridOf (n * 10 ^ power : ℕ) := by
    have log := log2_sub_le_gridOf total
    omega
  have shifted : n <<< 53 * 10 ^ power = (n * 10 ^ power) <<< 53 := by
    rw [Nat.shiftLeft_eq, Nat.shiftLeft_eq, Nat.mul_right_comm]
  rw [Float.ofScientific, dif_neg large]
  change numberOf? (repack (ofScientific Format.binary64 n power)) = _
  rw [ofScientific, dif_neg pos.ne', if_neg below, if_neg inside, if_pos (Int.natCast_nonneg power)]
  change numberOf? (repack (roundWithAccuracy Format.binary64 (.positive * .positive)
    (n <<< 53 * 10 ^ power) (-((53 : ℕ) : ℤ)) .exact)) = _
  rw [shifted, (approximates_natCast total 53 fine).numberOf?_repack]
  exact congrArg (fun v => some (rounded v)) (one_mul _)

/-- The float of a whole number is the nearest one. -/
theorem number?_ofNat (n : ℕ) : number? (Float.ofNat n) = some (rounded n) := by
  change number? (Float.ofScientific n false 0) = _
  by_cases small : n < 2 ^ 53 ∧ 0 ≤ 22
  · rw [Float.ofScientific, dif_pos small]
    dsimp only
    rw [if_neg Bool.false_ne_true, number?_mul number?_one one_ne_zero, number?_toFloat small.1,
      Option.map_some, rounded_natCast small.1, ← EReal.coe_mul, mul_one, extend_coe,
      rounded_natCast small.1]
  · have pos : 0 < n := by omega
    rw [number?_ofScientific small pos (Nat.zero_le _), pow_zero, mul_one]

end CanvasLint.Number
