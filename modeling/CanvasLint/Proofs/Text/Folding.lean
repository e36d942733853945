import CanvasLint.Text.Occurrence
import Mathlib.Data.List.Basic

/-! Whether a text that occurs in another as it is written also occurs regardless of case. Characters
become lower case one by one, but the form of a capital sigma depends on the letters around it. A
text that settles the forms of its own sigmas keeps its lower case wherever it stands, and so it is
found again. If it leaves one open, then a single letter in front or behind is enough to hide it. -/
namespace CanvasLint.Text

variable {before after before' after' s t a b : List Char} {c form : Char}
  {p : List Char → List Char → Bool} {text needle : String}

/-! ### What settles the form of a sigma -/

/-- No letter comes after the sigma, and what comes before is looked through, so that a letter in
front of the text would count. -/
def openInFront (before after : List Char) : Bool :=
  before.all isCaseIgnorable && !startsCased after

/-- A letter comes before the sigma, and what comes after is looked through, so that a letter behind
the text would count. -/
def openBehind (before after : List Char) : Bool :=
  startsCased before && after.all isCaseIgnorable

/-- Some sigma of the text stands between such characters, those before it nearest first. -/
def anySigma (p : List Char → List Char → Bool) (before : List Char) : List Char → Bool
  | [] => false
  | c :: after => c = 'Σ' && p before after || anySigma p (c :: before) after

/-- The text leaves the form of a sigma to what stands around the text. -/
def hasOpenSigma (s : String) : Bool :=
  anySigma openInFront [] s.toList || anySigma openBehind [] s.toList

/-- The letters on both sides of the sigma are in the text. -/
example : hasOpenSigma "ΜΟΥΣΕΙΟ" = false := by
  decide +kernel

theorem startsCased_append : startsCased (s ++ t) =
    if s.all isCaseIgnorable then startsCased t else startsCased s := by
  induction s with
  | nil => rfl
  | cons c s ih =>
    by_cases ignored : isCaseIgnorable c = true
    · simpa [startsCased, ignored] using ih
    · simp [startsCased, ignored]

theorem startsCased_of_all (through : s.all isCaseIgnorable = true) : startsCased s = false := by
  have nothing := startsCased_append (s := s) (t := [])
  rw [List.append_nil, if_pos through] at nothing
  exact nothing

/-! ### The lower case of a part -/

/-- The lower case of a part of a text between what comes before it, nearest character first, and
what comes after it. -/
def lowerWithin (before : List Char) : List Char → List Char → List Char
  | [], _ => []
  | c :: s, after => lowerBetween before c (s ++ after) ++ lowerWithin (c :: before) s after

theorem lowerAfter_append (before s t : List Char) : lowerAfter before (s ++ t) =
    lowerWithin before s t ++ lowerAfter (s.reverse ++ before) t := by
  induction s generalizing before with
  | nil => rfl
  | cons c s ih => simp [lowerAfter, lowerWithin, ih]

theorem lowerBetween_sigma : lowerBetween before 'Σ' after =
    [if startsCased before && !startsCased after then 'ς' else 'σ'] := by
  rw [lowerBetween, if_pos rfl]
  split <;> rfl

/-- Every other character has one lower case. -/
theorem lowerBetween_of_ne (other : c ≠ 'Σ') :
    lowerBetween before c after = lowerBetween before' c after' := by
  rw [lowerBetween, lowerBetween, if_neg other, if_neg other]

theorem lowerBetween_sigma_of_settled (front : openInFront before after = false)
    (back : openBehind before after = false) :
    lowerBetween (before ++ a) 'Σ' (after ++ b) = lowerBetween before 'Σ' after := by
  rw [openInFront] at front
  rw [openBehind] at back
  rw [lowerBetween_sigma, lowerBetween_sigma, startsCased_append, startsCased_append]
  by_cases throughBefore : before.all isCaseIgnorable = true
  · -- nothing before the sigma settles its form, so a letter after it does
    rw [throughBefore, Bool.true_and, Bool.not_eq_false'] at front
    have throughAfter : ¬ after.all isCaseIgnorable = true := fun through => by
      rw [startsCased_of_all through] at front
      cases front
    rw [if_neg throughAfter, front, Bool.not_true, Bool.and_false, Bool.and_false]
  · rw [if_neg throughBefore]
    by_cases throughAfter : after.all isCaseIgnorable = true
    · rw [throughAfter, Bool.and_true] at back
      rw [back, Bool.false_and, Bool.false_and]
    · rw [if_neg throughAfter]

/-- A part that settles the forms of its sigmas has the same lower case wherever it stands. -/
theorem lowerWithin_of_settled (front : anySigma openInFront before s = false)
    (back : anySigma openBehind before s = false) :
    lowerWithin (before ++ a) s b = lowerAfter before s := by
  induction s generalizing before with
  | nil => rfl
  | cons c s ih =>
    rw [anySigma, Bool.or_eq_false_iff] at front back
    have rest : lowerWithin (c :: (before ++ a)) s b = lowerAfter (c :: before) s :=
      ih front.2 back.2
    rw [lowerWithin, lowerAfter, rest]
    by_cases sigma : c = 'Σ'
    · subst sigma
      rw [lowerBetween_sigma_of_settled (by simpa using front.1) (by simpa using back.1)]
    · rw [lowerBetween_of_ne sigma]

/-- Where its surroundings leave its lower case alone, a part is found regardless of case. -/
theorem containsFolded_of_lowerWithin (whole : text.toList = a ++ needle.toList ++ b)
    (kept : lowerWithin a.reverse needle.toList b = lowercase needle) :
    containsFolded text needle = true := by
  rw [containsFolded, occursIn_iff]
  refine ⟨lowerWithin [] a (needle.toList ++ b), lowerAfter (needle.toList.reverse ++ a.reverse) b, ?_⟩
  rw [← kept, lowercase, whole, List.append_assoc, List.append_assoc, lowerAfter_append,
    lowerAfter_append, List.append_nil]

/-- A text that settles the forms of its sigmas is found regardless of case wherever it is found as
it is written. -/
theorem containsFolded_of_contains (settled : hasOpenSigma needle = false)
    (found : contains text needle = true) : containsFolded text needle = true := by
  rw [hasOpenSigma, Bool.or_eq_false_iff] at settled
  rw [contains, occursIn_iff] at found
  obtain ⟨a, b, whole⟩ := found
  have kept := lowerWithin_of_settled (a := a.reverse) (b := b) settled.1 settled.2
  exact containsFolded_of_lowerWithin whole.symm kept

/-! ### Letters that hide a part -/

/-- Putting these around a text turns no sigma into this form that had another. -/
def Lessens (form : Char) (a b : List Char) : Prop :=
  ∀ before c after, (lowerBetween (before ++ a) c (after ++ b)).count form ≤
    (lowerBetween before c after).count form

theorem Lessens.count_le (less : Lessens form a b) (before s : List Char) :
    (lowerWithin (before ++ a) s b).count form ≤ (lowerAfter before s).count form := by
  induction s generalizing before with
  | nil => exact Nat.le_refl _
  | cons c s ih =>
    rw [lowerWithin, lowerAfter, List.count_append, List.count_append]
    exact Nat.add_le_add (less before c s) (ih (c :: before))

/-- Where one sigma loses the form, the part has less of it. -/
theorem Lessens.count_lt (less : Lessens form a b)
    (lost : ∀ before after, p before after = true →
      (lowerBetween (before ++ a) 'Σ' (after ++ b)).count form <
        (lowerBetween before 'Σ' after).count form)
    (some : anySigma p before s = true) :
    (lowerWithin (before ++ a) s b).count form < (lowerAfter before s).count form := by
  induction s generalizing before with
  | nil => cases some
  | cons c s ih =>
    rw [lowerWithin, lowerAfter, List.count_append, List.count_append]
    rw [anySigma, Bool.or_eq_true, Bool.and_eq_true, decide_eq_true_eq] at some
    rcases some with ⟨rfl, here⟩ | later
    · exact Nat.add_lt_add_of_lt_of_le (lost before s here) (less.count_le (_ :: before) s)
    · exact Nat.add_lt_add_of_le_of_lt (less before c s) (ih later)

/-- A text that has more of a form is not found regardless of case. -/
theorem containsFolded_of_count_lt (form : Char)
    (more : (lowercase text).count form < (lowercase needle).count form) :
    containsFolded text needle = false := by
  rw [containsFolded, ← Bool.not_eq_true, occursIn_iff]
  exact fun found => Nat.not_le_of_lt more (found.sublist.count_le form)

/-! The letter that hides is an `a`. -/

theorem lowerBetween_a : lowerBetween before 'a' after = ['a'] := by
  have alone : lowerBetween [] 'a' [] = ['a'] := by decide +kernel
  rw [← alone]
  exact lowerBetween_of_ne (by decide)

theorem startsCased_a : startsCased ['a'] = true := by
  decide +kernel

/-- With a letter in front, a sigma may end a word that did not. -/
theorem lessens_inFront : Lessens 'σ' ['a'] [] := by
  intro before c after
  rw [List.append_nil]
  by_cases sigma : c = 'Σ'
  · subst sigma
    rw [lowerBetween_sigma, lowerBetween_sigma, startsCased_append, startsCased_a]
    split
    · rename_i through
      rw [startsCased_of_all through]
      exact List.count_le_length
    · exact Nat.le_refl _
  · exact Nat.le_of_eq (congrArg (List.count _) (lowerBetween_of_ne sigma))

/-- With a letter behind, a sigma may no longer end a word. -/
theorem lessens_behind : Lessens 'ς' [] ['a'] := by
  intro before c after
  rw [List.append_nil]
  by_cases sigma : c = 'Σ'
  · subst sigma
    rw [lowerBetween_sigma, lowerBetween_sigma, startsCased_append, startsCased_a]
    split
    · rw [Bool.not_true, Bool.and_false]
      exact Nat.zero_le _
    · exact Nat.le_refl _
  · exact Nat.le_of_eq (congrArg (List.count _) (lowerBetween_of_ne sigma))

theorem lost_inFront (inFront : openInFront before after = true) :
    (lowerBetween (before ++ ['a']) 'Σ' (after ++ [])).count 'σ' <
      (lowerBetween before 'Σ' after).count 'σ' := by
  rw [openInFront, Bool.and_eq_true, Bool.not_eq_true'] at inFront
  rw [List.append_nil, lowerBetween_sigma, lowerBetween_sigma, startsCased_append,
    if_pos inFront.1, startsCased_a, startsCased_of_all inFront.1, inFront.2]
  exact Nat.zero_lt_one

theorem lost_behind (behind : openBehind before after = true) :
    (lowerBetween (before ++ []) 'Σ' (after ++ ['a'])).count 'ς' <
      (lowerBetween before 'Σ' after).count 'ς' := by
  rw [openBehind, Bool.and_eq_true] at behind
  rw [List.append_nil, lowerBetween_sigma, lowerBetween_sigma, startsCased_append,
    if_pos behind.2, startsCased_a, startsCased_of_all behind.2, behind.1]
  exact Nat.zero_lt_one

theorem lowercase_a_append (s : String) :
    lowercase ("a" ++ s) = 'a' :: lowerWithin ['a'] s.toList [] := by
  have within := lowerAfter_append ['a'] s.toList []
  rw [List.append_nil, lowerAfter, List.append_nil] at within
  rw [lowercase, String.toList_append, ← within]
  exact congrArg (· ++ lowerAfter ['a'] s.toList) lowerBetween_a

theorem lowercase_append_a (s : String) :
    lowercase (s ++ "a") = lowerWithin [] s.toList ['a'] ++ ['a'] := by
  have last : lowerAfter (s.toList.reverse ++ []) ['a'] = ['a'] := by
    rw [lowerAfter, lowerBetween_a, lowerAfter, List.append_nil]
  rw [lowercase, String.toList_append]
  exact (lowerAfter_append _ _ _).trans (congrArg _ last)

/-- A text that leaves a sigma open is hidden by a letter on one side of it. -/
theorem exists_hiding (left : hasOpenSigma needle = true) :
    ∃ text, contains text needle = true ∧ containsFolded text needle = false := by
  rw [hasOpenSigma, Bool.or_eq_true] at left
  rcases left with front | back
  · have fewer := lessens_inFront.count_lt (fun _ _ => lost_inFront) front
    refine ⟨"a" ++ needle, ?_, containsFolded_of_count_lt 'σ' ?_⟩
    · rw [contains, occursIn_iff, String.toList_append]
      exact (List.suffix_append _ _).isInfix
    · rw [lowercase_a_append, List.count_cons_of_ne (by decide)]
      exact fewer
  · have fewer := lessens_behind.count_lt (fun _ _ => lost_behind) back
    refine ⟨needle ++ "a", ?_, containsFolded_of_count_lt 'ς' ?_⟩
    · rw [contains, occursIn_iff, String.toList_append]
      exact (List.prefix_append _ _).isInfix
    · rw [lowercase_append_a, List.count_append]
      exact fewer

end CanvasLint.Text
