import CanvasLint.Proofs.Json.Numerals
import CanvasLint.Proofs.Number.Shortest

/-! A float is written as a proper numeral that has a fraction or an exponent, wherever the point
falls among its digits. So it is read as a float again, though not always as the same one. -/
namespace CanvasLint.Json

open CanvasLint.Number (Decimal digitsOf)
open Numeral (WholePart fractionText exponentText)

variable {ds rest : List Char} {e : Int} {d : CanvasLint.Number.Dyadic} {x : Float} {spelled : String}

/-- The numeral shows that it stands for a float. -/
def Numeral.Marked (n : Numeral) : Prop :=
  n.fraction ≠ [] ∨ n.exponent ≠ none

private theorem WholePart.digits (whole : WholePart ds) : ∀ c ∈ ds, c.isDigit := by
  rcases whole with rfl | ⟨c, cs, rfl, -, digits⟩
  · exact List.forall_mem_singleton.mpr rfl
  · exact digits

private theorem isDigit_zeros (count : Nat) : ∀ c ∈ List.replicate count '0', c.isDigit := by
  intro c member
  rw [List.eq_of_mem_replicate member]
  rfl

/-- Unless they are a zero, whole digits stay so with some digits put behind or taken away. -/
private theorem WholePart.append (whole : WholePart ds) (nonzero : ds ≠ ['0'])
    (digits : ∀ c ∈ rest, c.isDigit) : WholePart (ds ++ rest) := by
  rcases whole with zero | ⟨c, cs, rfl, first, more⟩
  · exact absurd zero nonzero
  · refine .inr ⟨c, cs ++ rest, rfl, first, fun d member => ?_⟩
    rw [← List.cons_append, List.mem_append] at member
    rcases member with front | back
    · exact more d front
    · exact digits d back

private theorem WholePart.take (whole : WholePart ds) {count : Nat} (given : 0 < count)
    (part : count < ds.length) : WholePart (ds.take count) := by
  rcases whole with rfl | ⟨c, cs, rfl, first, digits⟩
  · exact absurd part (by simp; omega)
  · obtain ⟨count, rfl⟩ := Nat.exists_eq_succ_of_ne_zero (Nat.ne_of_gt given)
    refine .inr ⟨c, cs.take count, rfl, first, fun d member => digits d ?_⟩
    exact List.take_subset (count + 1) (c :: cs) member

/-- Parts that make a proper numeral, and one that shows that it stands for a float. -/
private theorem proper_and_marked {n : Numeral} (whole : WholePart n.whole)
    (fraction : ∀ c ∈ n.fraction, c.isDigit)
    (exponent : ∀ p ∈ n.exponent, p.2 ≠ [] ∧ ∀ c ∈ p.2, c.isDigit) (marked : n.Marked) :
    n.Proper ∧ n.Marked :=
  ⟨⟨whole, fraction, exponent⟩, marked⟩

private theorem no_exponent : ∀ p ∈ (none : Option (Bool × List Char)),
    p.2 ≠ [] ∧ ∀ c ∈ p.2, c.isDigit :=
  fun _ member => absurd member (Option.not_mem_none _)

/-- A float with a point is laid out as a numeral with a fraction. -/
private theorem exists_numeral_positional (whole : WholePart ds) (zero : ds = ['0'] → e ≤ 0) :
    ∃ n : Numeral, (n.Proper ∧ n.Marked) ∧ n.negative = false ∧
      (if 0 ≤ e then CanvasLint.Number.positional ds e ++ ['.', '0']
        else CanvasLint.Number.positional ds e) = n.text := by
  unfold CanvasLint.Number.positional
  by_cases up : 0 ≤ e
  · rw [if_pos up, if_pos up]
    refine ⟨⟨false, ds ++ List.replicate e.toNat '0', ['0'], none⟩,
      proper_and_marked ?_ (isDigit_zeros 1) no_exponent (.inl (List.cons_ne_nil _ _)), rfl, ?_⟩
    · by_cases alone : ds = ['0']
      · have small := zero alone
        have none : e.toNat = 0 := by omega
        simpa [none] using whole
      · exact WholePart.append whole alone (isDigit_zeros _)
    · simp [Numeral.text, fractionText, exponentText]
  · rw [if_neg up, if_neg up]
    dsimp only
    split
    · rename_i places
      obtain ⟨c, cs, behind⟩ : ∃ c cs, ds.drop (ds.length - (-e).toNat) = c :: cs :=
        List.exists_cons_of_ne_nil (by rw [Ne, List.drop_eq_nil_iff]; omega)
      refine ⟨⟨false, ds.take (ds.length - (-e).toNat), c :: cs, none⟩,
        proper_and_marked (WholePart.take whole (by omega) (by omega)) (fun d member => ?_)
          no_exponent (.inl (List.cons_ne_nil c cs)), rfl, ?_⟩
      · dsimp only at member
        rw [← behind] at member
        exact WholePart.digits whole d (List.mem_of_mem_drop member)
      · simp [Numeral.text, fractionText, exponentText, behind]
    · obtain ⟨c, cs, behind⟩ : ∃ c cs,
          List.replicate ((-e).toNat - ds.length) '0' ++ ds = c :: cs := by
        refine List.exists_cons_of_ne_nil fun empty => ?_
        obtain ⟨-, rfl⟩ := List.append_eq_nil_iff.mp empty
        rcases whole with missing | ⟨c, cs, missing, -⟩ <;> cases missing
      refine ⟨⟨false, ['0'], c :: cs, none⟩, proper_and_marked (.inl rfl) (fun d member => ?_)
        no_exponent (.inl (List.cons_ne_nil c cs)), rfl, ?_⟩
      · dsimp only at member
        rw [← behind, List.mem_append] at member
        rcases member with padding | digit
        · exact isDigit_zeros _ d padding
        · exact WholePart.digits whole d digit
      · simp [Numeral.text, fractionText, exponentText, behind]

/-- A float with an exponent is laid out as a numeral with one. -/
private theorem exists_numeral_scientific (whole : WholePart ds) :
    ∃ n : Numeral, (n.Proper ∧ n.Marked) ∧ n.negative = false ∧
      CanvasLint.Number.scientific ds e = n.text := by
  have digits := WholePart.digits whole
  obtain ⟨c, cs, rfl, first⟩ : ∃ c cs, ds = c :: cs ∧ WholePart [c] := by
    rcases whole with rfl | ⟨c, cs, rfl, nonzero, digits⟩
    · exact ⟨'0', [], rfl, .inl rfl⟩
    · refine ⟨c, cs, rfl, .inr ⟨c, [], rfl, nonzero, fun d member => ?_⟩⟩
      exact digits d (List.mem_cons.mpr (.inl (List.mem_singleton.mp member)))
  obtain ⟨down, power, laid⟩ : ∃ (down : Bool) (power : Nat),
      (if e + (c :: cs).length - 1 < 0 then '-' :: digitsOf (-(e + (c :: cs).length - 1)).toNat
        else '+' :: digitsOf (e + (c :: cs).length - 1).toNat) =
        (if down then '-' else '+') :: digitsOf power := by
    split
    · exact ⟨true, _, rfl⟩
    · exact ⟨false, _, rfl⟩
  refine ⟨⟨false, [c], cs, some (down, digitsOf power)⟩, proper_and_marked first
    (fun d member => digits d (List.mem_cons_of_mem _ member)) (fun p member => ?_)
    (.inr (Option.some_ne_none _)), rfl, ?_⟩
  · obtain rfl := Option.mem_some_iff.mp member
    exact ⟨digitsOf_ne_nil power, fun c => isDigit_of_mem_digitsOf⟩
  · unfold CanvasLint.Number.scientific
    simp only [laid]
    cases cs <;> simp [Numeral.text, fractionText, exponentText]

/-- A float is laid out as a numeral, unless a zero would get places before the point. -/
private theorem exists_numeral_jsonLayout (whole : WholePart ds) (zero : ds = ['0'] → e ≤ 0) :
    ∃ n : Numeral, (n.Proper ∧ n.Marked) ∧ n.negative = false ∧
      CanvasLint.Number.jsonLayout ds e = n.text := by
  unfold CanvasLint.Number.jsonLayout
  dsimp only
  split
  · exact exists_numeral_positional whole zero
  · exact exists_numeral_scientific whole

private theorem ofFloat?_bounds (known : CanvasLint.Number.Dyadic.ofFloat? x = some d) :
    d.significand < CanvasLint.Number.twoTo 53 ∧ d.exponent ≤ 971 := by
  unfold CanvasLint.Number.Dyadic.ofFloat? at known
  dsimp only at known
  have fraction : x.toBits.toNat % CanvasLint.Number.Dyadic.hiddenBit <
      CanvasLint.Number.Dyadic.hiddenBit := Nat.mod_lt _ (by decide)
  have hidden : CanvasLint.Number.Dyadic.hiddenBit + CanvasLint.Number.Dyadic.hiddenBit =
      CanvasLint.Number.twoTo 53 := by decide
  split at known
  · cases known
  · split at known
    · cases known
      exact ⟨by dsimp only; omega, by dsimp only; omega⟩
    · cases known
      exact ⟨by dsimp only; omega, by dsimp only; omega⟩

/-- The text of a finite float is a numeral that stands for a float. -/
theorem exists_numeral_of_json? (known : CanvasLint.Number.json? x = some spelled) :
    ∃ n : Numeral, (n.Proper ∧ n.Marked) ∧ spelled.toList = n.text := by
  unfold CanvasLint.Number.json? at known
  obtain ⟨d, finite, rfl⟩ := Option.map_eq_some_iff.mp known
  obtain ⟨small, range⟩ := ofFloat?_bounds finite
  obtain ⟨n, ⟨proper, marked⟩, positive, laid⟩ := exists_numeral_jsonLayout
    (wholePart_digitsOf (Decimal.shortest d .even).digits) fun zero =>
      Decimal.shortest_exponent_le small range (eq_zero_of_digitsOf zero)
  refine ⟨{ n with negative := d.negative },
    ⟨⟨proper.whole, proper.fraction, proper.exponent⟩, marked⟩, ?_⟩
  dsimp only
  rw [laid, CanvasLint.Number.withSign, String.toList_ofList]
  cases d.negative <;> simp [Numeral.text, positive]

end CanvasLint.Json
