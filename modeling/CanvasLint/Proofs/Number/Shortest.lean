import CanvasLint.Number.Notation
import Mathlib.Tactic.ByContra

/-! The search for the shortest decimal of a float. A grid whose step is no larger than the upper
half of the span has a point in it, so that the search can come to nothing only below the point, on
grids finer than one. The decimal zero, which stands for no digits found, is then spelled without
zeros in front. -/
namespace CanvasLint.Number

variable {g : Grid} {tie : Tie} {d : Dyadic} {k : Nat}

namespace Grid

theorem pos_of_nearest? (found : g.nearest? tie = some k) : 0 < k := by
  unfold nearest? at found
  dsimp only at found
  split at found
  · rename_i near
    rw [Bool.and_eq_true, decide_eq_true_eq] at near
    cases found
    exact near.1
  · split at found
    · rename_i near
      rw [Bool.and_eq_true, decide_eq_true_eq] at near
      cases found
      exact near.1
    · split at found
      · cases found
        exact Nat.succ_pos _
      · cases found

/-- The point behind the value is in the span if there is room for a step. -/
theorem nearest?_ne_none (positive : 0 < g.step) (lower : g.low ≤ g.value)
    (room : g.value + g.step < g.high) : g.nearest? tie ≠ none := by
  have upto : g.value / g.step * g.step ≤ g.value := Nat.div_mul_le_self _ _
  have beyond : g.value < (g.value / g.step + 1) * g.step := by
    rw [Nat.mul_comm]
    exact Nat.lt_mul_div_succ _ positive
  have place : (g.value / g.step + 1) * g.step = g.value / g.step * g.step + g.step :=
    Nat.succ_mul _ _
  have inside : g.holds (g.value / g.step + 1) = true := by
    unfold holds
    dsimp only
    split
    · simp only [Bool.and_eq_true, decide_eq_true_eq]
      omega
    · simp only [Bool.and_eq_true, decide_eq_true_eq]
      omega
  intro none
  unfold nearest? at none
  dsimp only at none
  rw [if_pos inside] at none
  split at none
  · cases none
  · split at none <;> cases none

end Grid

namespace Decimal

/-- A search without digits has tried all its grids in vain. -/
theorem search_digits_eq_zero {s : Dyadic.Span} {binary : Int} {more : Nat} {exponent : Int}
    (missing : (search s binary tie more exponent).digits = 0) :
    (search s binary tie more exponent).exponent = exponent - more ∧
      ∀ j < more, (Grid.ofSpan s binary (exponent - j)).nearest? tie = none := by
  induction more generalizing exponent with
  | zero => exact ⟨(Int.sub_zero _).symm, fun j early => absurd early (Nat.not_lt_zero j)⟩
  | succ more ih =>
    rw [search] at missing ⊢
    cases found : (Grid.ofSpan s binary exponent).nearest? tie with
    | some k =>
      rw [found] at missing
      exact absurd missing (Nat.ne_of_gt (Grid.pos_of_nearest? found))
    | none =>
      rw [found] at missing
      obtain ⟨last, tried⟩ := ih missing
      refine ⟨?_, fun j early => ?_⟩
      · dsimp only
        rw [last]
        omega
      · cases j with
        | zero => simpa using found
        | succ j =>
          have same : exponent - (j + 1 : Nat) = exponent - 1 - j := by omega
          rw [same]
          exact tried j (by omega)

private theorem tenTo_le_twoTo {a b : Nat} (room : 10 * ((a + 2) / 3) ≤ b) : tenTo a ≤ twoTo b := by
  calc 10 ^ a ≤ 10 ^ (3 * ((a + 2) / 3)) := Nat.pow_le_pow_right (by decide) (by omega)
    _ = (10 ^ 3) ^ ((a + 2) / 3) := Nat.pow_mul ..
    _ ≤ (2 ^ 10) ^ ((a + 2) / 3) := Nat.pow_le_pow_left (by decide) _
    _ = 2 ^ (10 * ((a + 2) / 3)) := (Nat.pow_mul ..).symm
    _ ≤ 2 ^ b := Nat.pow_le_pow_right (by decide) room

private theorem span_low_le (d : Dyadic) : d.span.low ≤ d.span.value := by
  unfold Dyadic.span
  dsimp only
  split <;> exact Nat.sub_le _ _

/-- On a grid that is no finer than one, the span of a large float has room for a step. -/
private theorem nearest?_ofSpan_ne_none {binary decimal : Int} (whole : 0 ≤ decimal)
    (room : 10 * ((decimal + 2) / 3) ≤ binary) :
    (Grid.ofSpan d.span binary decimal).nearest? tie ≠ none := by
  have tens : (-decimal).toNat = 0 := by omega
  have twos : (-binary).toNat = 0 := by omega
  have step : (Grid.ofSpan d.span binary decimal).step = tenTo decimal.toNat := by
    change tenTo decimal.toNat * twoTo (-binary).toNat = _
    rw [twos]
    exact Nat.mul_one _
  have scaled (k : Nat) : k * (tenTo (-decimal).toNat * twoTo binary.toNat) =
      k * twoTo binary.toNat := by
    rw [tens]
    exact congrArg (k * ·) (Nat.one_mul _)
  have small : tenTo decimal.toNat ≤ twoTo binary.toNat := tenTo_le_twoTo (by omega)
  have positive : 0 < tenTo decimal.toNat := Nat.pow_pos (by decide)
  refine Grid.nearest?_ne_none (step ▸ positive) ?_ ?_
  · exact Nat.mul_le_mul_right _ (span_low_le d)
  · rw [step]
    change 4 * d.significand * _ + _ < (4 * d.significand + 2) * _
    rw [scaled, scaled, Nat.add_mul]
    omega

/-- A float without digits has no places before the point. -/
theorem shortest_exponent_le (small : d.significand < twoTo 53) (range : d.exponent ≤ 971)
    (missing : (shortest d tie).digits = 0) : (shortest d tie).exponent ≤ 0 := by
  unfold shortest at missing ⊢
  by_cases zero : d.significand = 0
  · exact Int.le_of_eq (by rw [if_pos zero])
  · rw [if_neg zero] at missing ⊢
    dsimp only at missing ⊢
    obtain ⟨last, tried⟩ := search_digits_eq_zero missing
    rw [last]
    by_contra places
    have log : d.significand.log2 < 53 := (Nat.log2_lt zero).mpr small
    exact nearest?_ofSpan_ne_none (by omega) (by omega) (tried 23 (by decide))

end Decimal

end CanvasLint.Number
