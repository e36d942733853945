import CanvasLint.Proofs.Json.Numerals
import CanvasLint.Proofs.Number.Operations

/-! Numbers that are read from a text are finite. The digits of a number fill 64 bits at most before
they become a float; dividing that by powers of ten, which are one or more, makes it no larger; and
what it becomes by multiplying with them is only taken if it is finite. -/
namespace CanvasLint.Json

open CanvasLint.Number

variable {v w : ℝ} {x y : Float} {n : ℕ} {numeral : Numeral}

/-- The float is as large as a whole number of 64 bits can make it, and not negative. -/
def Confined (x : Float) : Prop :=
  ∃ a : ℝ, number? x = some (a : EReal) ∧ 0 ≤ a ∧ a ≤ (2 ^ 64 : ℕ)

theorem Confined.isFinite (confined : Confined x) : x.isFinite = true := by
  obtain ⟨a, known, -, -⟩ := confined
  exact isFinite_iff.mpr ⟨a, known⟩

theorem isFinite_neg (finite : x.isFinite = true) : (-x).isFinite = true := by
  obtain ⟨a, known⟩ := isFinite_iff.mp finite
  refine isFinite_iff.mpr ⟨-a, ?_⟩
  rw [number?_neg, known, Option.map_some, EReal.coe_neg]

/-! ### Rounding -/

private theorem rounded_bound : rounded (2 ^ 64 : ℕ) = (((2 ^ 64 : ℕ) : ℝ) : EReal) := by
  have bound : Dyadic.ofFloat? (Float.ofNat (2 ^ 64)) = some ⟨false, 2 ^ 52, 12⟩ := by
    decide +kernel
  have spelled := number?_of_ofFloat? bound
  rw [number?_ofNat, Dyadic.number_mk_false, scaled_two_pow, Option.some.injEq] at spelled
  have places : (2 : ℝ) ^ (((52 : ℕ) : ℤ) + 12) = 2 ^ 64 := by norm_num
  rw [places] at spelled
  exact_mod_cast spelled

/-- What is rounded to something between two numbers is rounded to a number. -/
private theorem exists_rounded_eq {a b : ℝ} (lower : (a : EReal) ≤ rounded v)
    (upper : rounded v ≤ (b : EReal)) : ∃ c : ℝ, rounded v = c ∧ a ≤ c ∧ c ≤ b := by
  have below : rounded v ≠ ⊤ := (upper.trans_lt (EReal.coe_lt_top _)).ne
  have above : rounded v ≠ ⊥ := ((EReal.bot_lt_coe _).trans_le lower).ne'
  have same := EReal.coe_toReal below above
  rw [← same] at lower upper
  exact ⟨_, same.symm, EReal.coe_le_coe_iff.mp lower, EReal.coe_le_coe_iff.mp upper⟩

private theorem exists_rounded (nonneg : 0 ≤ v) (le : v ≤ (2 ^ 64 : ℕ)) :
    ∃ a : ℝ, rounded v = a ∧ 0 ≤ a ∧ a ≤ (2 ^ 64 : ℕ) :=
  exists_rounded_eq (rounded_zero.ge.trans (rounded_mono nonneg)) (rounded_bound ▸ rounded_mono le)

theorem confined_ofNat (small : n ≤ Numeral.largestWhole) : Confined (Float.ofNat n) := by
  have le : (n : ℝ) ≤ (2 ^ 64 : ℕ) := Nat.cast_le.mpr (small.trans (by decide))
  obtain ⟨a, known, range⟩ := exists_rounded n.cast_nonneg le
  exact ⟨a, by rw [number?_ofNat, known], range⟩

/-- What is divided by one or more does not leave the range. -/
theorem Confined.div (confined : Confined x) (divisor : number? y = some (w : EReal))
    (large : 1 ≤ w) : Confined (x / y) := by
  obtain ⟨a, known, nonneg, small⟩ := confined
  have positive : 0 < w := one_pos.trans_le large
  obtain ⟨b, rounds, range⟩ := exists_rounded (div_nonneg nonneg positive.le)
    ((div_le_self nonneg large).trans small)
  refine ⟨b, ?_, range⟩
  rw [number?_div divisor positive.ne', known, Option.map_some, ← EReal.coe_div, extend_coe, rounds]

namespace Numeral

/-! ### Powers of ten -/

variable {power : ℕ}

private theorem powerOfTen_exact : ∀ power : Fin 23,
    1 ≤ powerOfTen power ∧ (powerOfTen power).isFinite = true := by
  decide +kernel

private theorem number?_literal_one : number? 1 = some ((1 : ℝ) : EReal) := by
  have known : Dyadic.ofFloat? 1 = some ⟨false, 2 ^ 52, -52⟩ := by decide +kernel
  rw [number?_of_ofFloat? known, Dyadic.number_mk_false, scaled_two_pow]
  norm_num

private theorem number?_powerOfTen (inexact : 22 < power) (small : power ≤ largestPower) :
    number? (powerOfTen power) = some (rounded (10 ^ power : ℕ)) := by
  have room : power ≤ 2 ^ 11 := small.trans (by decide)
  rw [powerOfTen, number?_ofScientific (by omega) one_pos room, one_mul]

/-- A power of ten that is a float is one or more. -/
private theorem exists_powerOfTen (small : power ≤ largestPower) :
    ∃ w : ℝ, number? (powerOfTen power) = some (w : EReal) ∧ 1 ≤ w := by
  by_cases exact : power ≤ 22
  · obtain ⟨le, finite⟩ := powerOfTen_exact ⟨power, Nat.lt_succ_of_le exact⟩
    obtain ⟨a, b, one, same, le⟩ := le_iff.mp le
    obtain ⟨w, known⟩ := isFinite_iff.mp finite
    rw [number?_literal_one] at one
    rw [known] at same
    cases one
    cases same
    exact ⟨w, known, EReal.coe_le_coe_iff.mp le⟩
  · -- between the roundings of 1 and of the largest power
    have known := number?_powerOfTen (not_le.mp exact) small
    have top : (powerOfTen largestPower).isFinite = true := by decide +kernel
    obtain ⟨b, bound⟩ := isFinite_iff.mp top
    rw [number?_powerOfTen (by decide) le_rfl, Option.some.injEq] at bound
    have least : (1 : ℝ) ≤ (10 ^ power : ℕ) := by exact_mod_cast Nat.one_le_pow _ _ (by decide)
    have most : ((10 ^ power : ℕ) : ℝ) ≤ (10 ^ largestPower : ℕ) := by
      exact_mod_cast Nat.pow_le_pow_right (by decide) small
    have one : rounded 1 = ((1 : ℝ) : EReal) := by
      exact_mod_cast rounded_natCast (n := 1) (by decide)
    obtain ⟨w, same, large, -⟩ :=
      exists_rounded_eq (one ▸ rounded_mono least) (bound ▸ rounded_mono most)
    exact ⟨w, same ▸ known, large⟩

private theorem confined_div_powerOfTen (confined : Confined x) (small : power ≤ largestPower) :
    Confined (x / powerOfTen power) := by
  obtain ⟨w, divisor, large⟩ := exists_powerOfTen small
  exact confined.div divisor large

/-! ### Numerals -/

theorem confined_scaleDown (confined : Confined x) (power : ℕ) :
    Confined (scaleDown x power) := by
  fun_induction scaleDown x power with
  | case1 x power small => exact confined_div_powerOfTen confined small
  | case2 x power large zero => exact confined
  | case3 x power large nonzero ih => exact ih (confined_div_powerOfTen confined le_rfl)

theorem isFinite_scale (confined : Confined x) {power : ℤ} (reached : scale x power = some y) :
    y.isFinite = true := by
  cases power with
  | negSucc power =>
    cases reached
    exact (confined_scaleDown confined _).isFinite
  | ofNat power =>
    rw [scale] at reached
    dsimp only at reached
    split at reached
    · split at reached
      · rename_i finite
        cases reached
        exact finite
      · cases reached
    · split at reached
      · cases reached
        exact confined.isFinite
      · cases reached

private theorem isFinite_withSign (finite : x.isFinite = true) (negative : Bool) :
    (withSign negative x).isFinite = true := by
  cases negative with
  | false => exact finite
  | true => exact isFinite_neg finite

private theorem Spelled.isFinite (spelled : Spelled x) : x.isFinite = true := by
  cases spelled with
  | whole small => exact isFinite_neg (confined_ofNat small).isFinite
  | scaled small reached negative =>
    exact isFinite_withSign (isFinite_scale (confined_ofNat small) reached) negative
  | zero negative => exact isFinite_withSign rfl negative

/-- Whatever a numeral stands for is finite. -/
theorem isFinite_value {m : Number} (known : numeral.value = .ok m) : m.toFloat.isFinite = true := by
  rcases value_cases known with ⟨x, rfl, spelled⟩ | ⟨-, -, readable, whole⟩
  · exact spelled.isFinite
  · cases m with
    | natural n => exact (confined_ofNat readable).isFinite
    | negative n =>
      exact isFinite_neg (confined_ofNat (readable.2.trans (by decide))).isFinite
    | real x => exact absurd rfl (whole x)

end Numeral

end CanvasLint.Json
