import CanvasLint.Proofs.Number.Hundredths

/-! Percentages of whole numbers, computed in floats. A share is divided out, made a percentage and
rounded to a whole number. Both floats together are off by so little that only a percentage that ends
in a half can be rounded the wrong way, unless the numbers are huge. -/
namespace CanvasLint.Number

variable {p n : ℕ} {v : ℝ} {x : Float}

/-- The percentage of a share, with a float after either step. -/
noncomputable def percentage (share : ℝ) : ℝ :=
  nearest (nearest share * (100 : ℕ))

theorem percentage_nonneg (share : ℝ) : 0 ≤ percentage share :=
  nearest_nonneg _

theorem nearest_le_natCast {m : ℕ} (small : m < 2 ^ 53) (nonneg : 0 ≤ v) (le : v ≤ m) :
    nearest v ≤ m :=
  (nearest_mono nonneg le).trans_eq (nearest_natCast small)

theorem nearest_le_one (nonneg : 0 ≤ v) (le : v ≤ 1) : nearest v ≤ 1 := by
  have bound := nearest_le_natCast (m := 1) (by norm_num) nonneg (by exact_mod_cast le)
  exact_mod_cast bound

theorem percentage_le (nonneg : 0 ≤ v) (le : v ≤ 1) : percentage v ≤ 100 := by
  have scaled : nearest v * 100 ≤ (100 : ℕ) := by
    push_cast
    linarith [nearest_le_one nonneg le]
  have bound := nearest_le_natCast (m := 100) (by norm_num)
    (mul_nonneg (nearest_nonneg v) (by norm_num)) scaled
  exact_mod_cast bound

/-- Two roundings of a share and its percentage do not add up to much. -/
theorem abs_percentage_sub_lt (nonneg : 0 ≤ v) (le : v ≤ 1) :
    |percentage v - v * 100| < 1 / 2 ^ 45 := by
  have first : |nearest v - v| ≤ 2 ^ (-52 : ℤ) / 2 := by
    apply abs_nearest_sub_le nonneg (by norm_num)
    calc v ≤ 1 := le
      _ < 2 ^ (53 + -52 : ℤ) := by norm_num
  have second : |percentage v - nearest v * 100| ≤ 2 ^ (-46 : ℤ) / 2 := by
    apply abs_nearest_sub_le (mul_nonneg (nearest_nonneg v) (by norm_num)) (by norm_num)
    calc nearest v * 100 ≤ 1 * 100 := by linarith [nearest_le_one nonneg le]
      _ < 2 ^ (53 + -46 : ℤ) := by norm_num
  calc |percentage v - v * 100|
      = |(percentage v - nearest v * 100) + (nearest v - v) * 100| := by ring_nf
    _ ≤ |percentage v - nearest v * 100| + |(nearest v - v) * 100| := abs_add_le _ _
    _ = |percentage v - nearest v * 100| + |nearest v - v| * 100 := by rw [abs_mul]; norm_num
    _ ≤ 2 ^ (-46 : ℤ) / 2 + 2 ^ (-52 : ℤ) / 2 * 100 := by linarith
    _ < 1 / 2 ^ 45 := by norm_num

theorem rounded_of_le_hundred (nonneg : 0 ≤ v) (le : nearest v ≤ 100) : rounded v = nearest v := by
  have inside : (100 : ℝ) < limit :=
    calc (100 : ℝ) < 2 ^ (7 : ℤ) := by norm_num
      _ ≤ limit := zpow_le_zpow_right₀ one_le_two (by decide)
  rw [rounded_of_nonneg nonneg, clip_of_abs_lt]
  rw [abs_of_nonneg (nearest_nonneg v)]
  exact le.trans_lt inside

/-- The float that stands for a percentage. -/
theorem number?_percentage (pos : 0 < n) (le : p ≤ n) (small : n < 2 ^ 53) :
    number? (Float.ofNat p / Float.ofNat n * 100) = some (percentage (p / n) : EReal) := by
  have nonzero : (n : ℝ) ≠ 0 := Nat.cast_ne_zero.mpr pos.ne'
  have share : (0 : ℝ) ≤ p / n := div_nonneg p.cast_nonneg n.cast_nonneg
  have part : (p : ℝ) / n ≤ 1 := (div_le_one (Nat.cast_pos.mpr pos)).mpr (Nat.cast_le.mpr le)
  have whole : number? (Float.ofNat n) = some ((n : ℝ) : EReal) :=
    (number?_ofNat n).trans (congrArg some (rounded_natCast small))
  have divided : number? (Float.ofNat p / Float.ofNat n) =
      some ((nearest (p / n) : ℝ) : EReal) := by
    rw [number?_div whole nonzero, number?_ofNat, rounded_natCast (le.trans_lt small),
      Option.map_some, ← EReal.coe_div, extend_coe, rounded_of_le_hundred share]
    linarith [nearest_le_one share part]
  rw [number?_mul number?_hundred (by norm_num), divided, Option.map_some, ← EReal.coe_mul,
    extend_coe, rounded_of_le_hundred]
  · rfl
  · exact mul_nonneg (nearest_nonneg _) (by norm_num)
  · exact percentage_le share part

/-- A number that is nearer to a fraction than the fraction can be to a whole number has the same whole
part. -/
theorem floor_eq_div_of_near {m d : ℕ} (pos : 0 < d) (apart : ¬ d ∣ m) (nonneg : 0 ≤ v)
    (near : |v - m / d| < 1 / d) : ⌊v⌋₊ = m / d := by
  have positive : (0 : ℝ) < d := Nat.cast_pos.mpr pos
  have parts := Nat.div_add_mod m d
  have rest : 0 < m % d := Nat.pos_of_ne_zero fun none => apart (Nat.dvd_of_mod_eq_zero none)
  have less : m % d < d := Nat.mod_lt m pos
  generalize m / d = whole at parts ⊢
  generalize m % d = left at parts rest less
  have exact : (m : ℝ) / d = whole + left / d := by
    have parts' : (d * whole + left : ℝ) = m := by exact_mod_cast parts
    field_simp
    linarith
  have above : 1 / (d : ℝ) ≤ left / d := by
    apply div_le_div_of_nonneg_right _ positive.le
    exact_mod_cast rest
  have below : left / (d : ℝ) ≤ 1 - 1 / d := by
    rw [le_sub_iff_add_le, ← add_div, div_le_one positive]
    exact_mod_cast less
  rw [exact] at near
  obtain ⟨low, high⟩ := abs_lt.mp near
  rw [Nat.floor_eq_iff nonneg]
  constructor <;> linarith

/-- The whole number nearest to a float that is neither negative nor too large. -/
theorem toNat_nearestByte (number : number? x = some (v : EReal)) (nonneg : 0 ≤ v)
    (le : v ≤ 255) : (nearestByte x).toNat = ⌊v + 1 / 2⌋₊ := by
  have bound : ⌊v + 1 / 2⌋₊ ≤ 255 := by
    have floor : ⌊v + 1 / 2⌋₊ < 256 := (Nat.floor_lt (by linarith)).mpr (by norm_num; linarith)
    omega
  cases finite : Dyadic.ofFloat? x with
  | none =>
    rcases eq_top_or_eq_bot finite number with same | same
    · exact absurd same (EReal.coe_ne_top v)
    · exact absurd same (EReal.coe_ne_bot v)
  | some d =>
    have same : d.number = v := by
      rw [number?_of_ofFloat? finite] at number
      exact_mod_cast Option.some.inj number
    rw [nearestByte, finite]
    dsimp only
    by_cases negative : d.negative = true
    · -- only a zero can have this sign
      have nothing : v = 0 := by
        rw [Dyadic.number, if_pos negative] at same
        have magnitude : 0 ≤ scaled d.significand d.exponent := scaled_nonneg
        linarith
      rw [if_pos negative, nothing]
      norm_num
    · have magnitude : scaled d.significand d.exponent = v := by
        rw [← same, Dyadic.number, if_neg negative, one_mul]
      have nearest : d.nearestNat = ⌊v + 1 / 2⌋₊ := by
        have halves := nearestNat_eq d
        rw [magnitude, halfUp] at halves
        exact_mod_cast halves
      rw [if_neg negative, nearest, min_eq_left bound]
      exact UInt8.toNat_ofNat_of_lt' (Nat.lt_succ_of_le bound)

end CanvasLint.Number
