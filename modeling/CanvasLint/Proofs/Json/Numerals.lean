import CanvasLint.Proofs.Json.Readers

/-! Numbers are written as numerals, and a numeral is read as far as it goes: its spelling followed
by anything that cannot go on with a number gives the numeral back. Whole numbers keep their value on
the way; of a float only its numeral is kept, which need not stand for the same float. -/
namespace CanvasLint.Json

open Text (Reader taken taken_eq_some)

variable {s rest ds whole fraction : List Char} {c : Char} {negative : Bool} {ended : Cause}
  {exponent : Option (Bool × List Char)} {numeral : Numeral}

/-- The text does not go on with a digit. -/
def NoDigit (s : List Char) : Prop :=
  ∀ c ∈ s.head?, c.isDigit = false

/-- The text does not go on with anything that a number can go on with. -/
def Delimited (s : List Char) : Prop :=
  ∀ c ∈ s.head?, c.isDigit = false ∧ c ≠ '.' ∧ c ≠ 'e' ∧ c ≠ 'E'

theorem Delimited.noDigit (delimited : Delimited s) : NoDigit s :=
  fun c head => (delimited c head).1

theorem delimited_nil : Delimited [] := by
  intro c head
  cases head

theorem delimited_cons (digit : c.isDigit = false) (other : c ≠ '.' ∧ c ≠ 'e' ∧ c ≠ 'E') :
    Delimited (c :: s) := by
  intro d head
  obtain rfl : c = d := by simpa using head
  exact ⟨digit, other⟩

theorem noDigit_cons (digit : c.isDigit = false) : NoDigit (c :: s) := by
  intro d head
  obtain rfl : c = d := by simpa using head
  exact digit

private theorem takeWhile_digits (digits : ∀ c ∈ ds, c.isDigit) (stop : NoDigit rest) :
    (ds ++ rest).takeWhile Char.isDigit = ds := by
  rw [List.takeWhile_append_of_pos digits]
  cases rest with
  | nil => simp
  | cons c rest => simp [stop c rfl]

private theorem dropWhile_digits (digits : ∀ c ∈ ds, c.isDigit) (stop : NoDigit rest) :
    (ds ++ rest).dropWhile Char.isDigit = rest := by
  rw [List.dropWhile_append_of_pos digits]
  cases rest with
  | nil => rfl
  | cons c rest => simp [stop c rfl]

namespace Numeral

/-- How a fraction is spelled, the empty one not at all. -/
def fractionText : List Char → List Char
  | [] => []
  | d :: ds => '.' :: d :: ds

/-- How an exponent is spelled, always with its sign. -/
def exponentText : Option (Bool × List Char) → List Char
  | none => []
  | some (down, digits) => 'e' :: (if down then '-' else '+') :: digits

def text (n : Numeral) : List Char :=
  (if n.negative then ['-'] else [])
    ++ (n.whole ++ (fractionText n.fraction ++ exponentText n.exponent))

private theorem taken_readPower (ended : Cause) (negative : Bool) (given : ds ≠ [])
    (digits : ∀ c ∈ ds, c.isDigit) (stop : NoDigit rest) :
    taken (readPower ended negative (ds ++ rest)) = some ((negative, ds), rest) := by
  obtain ⟨d, ds, rfl⟩ := List.exists_cons_of_ne_nil given
  have more : ∀ c ∈ ds, c.isDigit := fun c member => digits c (List.mem_cons_of_mem _ member)
  rw [List.cons_append, readPower, if_pos (digits d List.mem_cons_self),
    takeWhile_digits more stop]
  exact congrArg (fun left => some ((negative, d :: ds), left)) (dropWhile_digits more stop)

private theorem taken_readExponent? (ended : Cause)
    (proper : ∀ e ∈ exponent, e.2 ≠ [] ∧ ∀ d ∈ e.2, d.isDigit) (stop : Delimited rest) :
    taken (readExponent? ended (exponentText exponent ++ rest)) = some (exponent, rest) := by
  cases exponent with
  | none =>
    cases rest with
    | nil => rfl
    | cons c rest =>
      have other := stop c rfl
      change taken (readExponent? ended (c :: rest)) = _
      rw [readExponent?, if_neg (by simp [other])]
      rfl
  | some e =>
    obtain ⟨down, digits⟩ := e
    obtain ⟨given, digit⟩ := proper _ rfl
    have power := taken_readPower ended down given digit stop.noDigit
    have read (sign : Char) (signed : sign = if down then '-' else '+') :
        taken (readExponent ended (sign :: digits ++ rest)) = some ((down, digits), rest) := by
      subst signed
      cases down
      · exact (Reader.taken_behind _ _).trans power
      · exact (Reader.taken_behind _ _).trans power
    obtain ⟨fits, done⟩ := taken_eq_some.mp (read _ rfl)
    rw [exponentText, List.cons_append, readExponent?, if_pos (Or.inl rfl), done]
    rfl

/-- Behind its whole part, a numeral is read to its end. -/
private theorem taken_readTail (ended : Cause) (negative : Bool) (whole : List Char)
    (digits : ∀ d ∈ fraction, d.isDigit)
    (proper : ∀ e ∈ exponent, e.2 ≠ [] ∧ ∀ d ∈ e.2, d.isDigit) (stop : Delimited rest) :
    taken (readTail ended negative whole (fractionText fraction ++ (exponentText exponent ++ rest))) =
      some (⟨negative, whole, fraction, exponent⟩, rest) := by
  have power := taken_readExponent? ended proper stop
  cases fraction with
  | nil =>
    have point : ∀ t, exponentText exponent ++ rest ≠ '.' :: t := by
      intro t same
      cases exponent with
      | none => exact (stop '.' (congrArg List.head? same)).2.1 rfl
      | some e => cases congrArg List.head? same
    obtain ⟨fits, read⟩ := taken_eq_some.mp power
    rw [fractionText, List.nil_append, readTail, read]
    · rfl
    · exact point
  | cons d ds =>
    have noDigit : NoDigit (exponentText exponent ++ rest) := by
      cases exponent with
      | none => exact stop.noDigit
      | some e => exact noDigit_cons (by decide)
    have ahead := takeWhile_digits digits noDigit
    have behind : (Text.Tail.dropWhile Char.isDigit
        (d :: ds ++ (exponentText exponent ++ rest))).1 = exponentText exponent ++ rest :=
      dropWhile_digits digits noDigit
    rw [← behind] at power
    obtain ⟨fits, read⟩ := taken_eq_some.mp power
    change taken (readTail ended negative whole ('.' :: (d :: ds ++ (exponentText exponent ++ rest))))
      = _
    rw [readTail, ahead, read]
    rfl

/-- Digits are a whole part if none of them is in vain. -/
def WholePart (whole : List Char) : Prop :=
  whole = ['0'] ∨ ∃ c cs, whole = c :: cs ∧ c ≠ '0' ∧ ∀ d ∈ c :: cs, d.isDigit

private theorem WholePart.not_minus (proper : WholePart whole) (follow t : List Char) :
    whole ++ follow ≠ '-' :: t := by
  intro same
  rcases proper with rfl | ⟨c, cs, rfl, -, digits⟩
  · cases congrArg List.head? same
  · obtain rfl : c = '-' := Option.some.inj (congrArg List.head? same)
    exact absurd (digits '-' List.mem_cons_self) (by decide)

private theorem taken_readUnsigned {follow : List Char} (proper : WholePart whole)
    (stop : NoDigit follow) (tail : taken (readTail ended negative whole follow) =
      some (⟨negative, whole, fraction, exponent⟩, rest)) :
    taken (readUnsigned ended negative (whole ++ follow)) =
      some (⟨negative, whole, fraction, exponent⟩, rest) := by
  rcases proper with rfl | ⟨c, cs, rfl, nonzero, digits⟩
  · obtain ⟨fits, read⟩ := taken_eq_some.mp tail
    have alone : ¬ (follow.head?.map Char.isDigit).getD false = true := by
      cases head : follow.head? with
      | none => simp
      | some c => simp [stop c head]
    rw [List.singleton_append, readUnsigned, if_pos rfl, if_neg alone, read]
    rfl
  · have more : ∀ d ∈ cs, d.isDigit := fun d member => digits d (List.mem_cons_of_mem _ member)
    have ahead := takeWhile_digits more stop
    have behind : (Text.Tail.dropWhile Char.isDigit (cs ++ follow)).1 = follow :=
      dropWhile_digits more stop
    rw [← behind] at tail
    obtain ⟨fits, read⟩ := taken_eq_some.mp tail
    rw [List.cons_append, readUnsigned, if_neg nonzero, if_pos (digits c List.mem_cons_self), ahead]
    dsimp only
    rw [read]
    rfl

/-- The parts are made of digits, none of them in vain. -/
structure Proper (n : Numeral) : Prop where
  whole : WholePart n.whole
  fraction : ∀ d ∈ n.fraction, d.isDigit
  exponent : ∀ e ∈ n.exponent, e.2 ≠ [] ∧ ∀ d ∈ e.2, d.isDigit

/-- A proper numeral is read as it is spelled, whatever follows that cannot belong to it. -/
theorem taken_read_text (proper : numeral.Proper) (stop : Delimited rest) (ended : Cause) :
    taken (Numeral.read ended (numeral.text ++ rest)) = some (numeral, rest) := by
  have noDigit : NoDigit
      (fractionText numeral.fraction ++ (exponentText numeral.exponent ++ rest)) := by
    match numeral.fraction, numeral.exponent with
    | [], none => exact stop.noDigit
    | [], some e => exact noDigit_cons (by decide)
    | d :: ds, _ => exact noDigit_cons (by decide)
  have tail := taken_readTail ended numeral.negative numeral.whole proper.fraction
    proper.exponent stop
  have unsigned := taken_readUnsigned proper.whole noDigit tail
  rw [text, List.append_assoc, List.append_assoc, List.append_assoc]
  cases sign : numeral.negative with
  | true =>
    rw [sign] at unsigned
    rw [if_pos rfl, List.singleton_append, Numeral.read, Reader.taken_behind, unsigned, ← sign]
  | false =>
    rw [sign] at unsigned
    rw [if_neg (by decide), List.nil_append, Numeral.read, unsigned, ← sign]
    exact proper.whole.not_minus _

end Numeral

/-! ### Whole numbers -/

open CanvasLint.Number (digitsOf)

private theorem digitsOf_head (n : Nat) (positive : 0 < n) :
    ∃ c cs, digitsOf n = c :: cs ∧ c ≠ '0' := by
  induction n using Nat.strongRecOn with
  | ind n ih =>
    by_cases small : n < 10
    · have each : ∀ k : Fin 10, 0 < k.1 → k.1.digitChar ≠ '0' := by decide
      exact ⟨n.digitChar, [], Nat.toDigits_of_lt_base small, each ⟨n, small⟩ positive⟩
    · obtain ⟨c, cs, front, nonzero⟩ := ih (n / 10) (by omega) (by omega)
      refine ⟨c, cs ++ [(n % 10).digitChar], ?_, nonzero⟩
      rw [digitsOf, Nat.toDigits_of_base_le (by decide) (by omega)]
      exact congrArg (· ++ [(n % 10).digitChar]) front

theorem isDigit_of_mem_digitsOf {n : Nat} (member : c ∈ digitsOf n) : c.isDigit :=
  Nat.isDigit_of_mem_toDigits (by decide) (by decide) member

theorem digitsOf_ne_nil (n : Nat) : digitsOf n ≠ [] :=
  Nat.toDigits_ne_nil

theorem eq_zero_of_digitsOf {n : Nat} (alone : digitsOf n = ['0']) : n = 0 := by
  have value : Nat.ofDigitChars 10 (digitsOf n) 0 = n := Nat.ofDigitChars_ten_toDigits
  rw [alone] at value
  exact value.symm

theorem wholePart_digitsOf (n : Nat) : Numeral.WholePart (digitsOf n) := by
  rcases Nat.eq_zero_or_pos n with rfl | positive
  · exact .inl rfl
  · obtain ⟨c, cs, digits, nonzero⟩ := digitsOf_head n positive
    refine .inr ⟨c, cs, digits, nonzero, fun d member => ?_⟩
    rw [← digits] at member
    exact isDigit_of_mem_digitsOf member

private theorem le_ofDigitChars (ds : List Char) (n : Nat) : n ≤ Nat.ofDigitChars 10 ds n := by
  induction ds generalizing n with
  | nil => exact Nat.le_refl n
  | cons d ds ih =>
    rw [Nat.ofDigitChars_cons]
    exact Nat.le_trans (by omega) (ih _)

/-- Digits are added up as long as the limit allows. -/
theorem accumulate_eq {limit n : Nat} (small : Nat.ofDigitChars 10 ds n ≤ limit) :
    Numeral.accumulate limit n ds = (Nat.ofDigitChars 10 ds n, []) := by
  induction ds generalizing n with
  | nil => rfl
  | cons d ds ih =>
    rw [Nat.ofDigitChars_cons] at small ⊢
    have fits : 10 * n + Text.digitValue d ≤ limit :=
      Nat.le_trans (le_ofDigitChars ds _) small
    rw [Numeral.accumulate, if_pos fits]
    exact ih small

/-- The numeral of a whole number. -/
def Numeral.ofNat (negative : Bool) (n : Nat) : Numeral :=
  ⟨negative, digitsOf n, [], none⟩

theorem Numeral.proper_ofNat (negative : Bool) (n : Nat) : (Numeral.ofNat negative n).Proper where
  whole := wholePart_digitsOf n
  fraction _ member := absurd member List.not_mem_nil
  exponent _ member := absurd member (Option.not_mem_none _)

private theorem accumulate_digitsOf {n limit : Nat} (small : n ≤ limit) :
    Numeral.accumulate limit 0 (digitsOf n) = (n, []) := by
  have value : Nat.ofDigitChars 10 (digitsOf n) 0 = n := Nat.ofDigitChars_ten_toDigits
  rw [accumulate_eq (by rwa [value]), value]

theorem Numeral.value_natural {n : Nat} (small : n ≤ largestWhole) :
    (Numeral.ofNat false n).value = .ok (.natural n) := by
  unfold value ofNat
  rw [accumulate_digitsOf small]
  rfl

theorem Numeral.value_negative {n : Nat} (positive : 0 < n) (small : n ≤ 0x8000000000000000) :
    (Numeral.ofNat true n).value = .ok (.negative n) := by
  have fits : n ≤ largestWhole := Nat.le_trans small (by decide)
  unfold value ofNat
  rw [accumulate_digitsOf fits]
  exact if_pos (And.intro positive small)

/-! ### Values of numerals -/

/-- The whole numbers that are kept as such, and all floats. -/
def Number.Readable : Number → Prop
  | .natural n => n ≤ Numeral.largestWhole
  | .negative n => 0 < n ∧ n ≤ 0x8000000000000000
  | .real _ => True

private theorem accumulate_le {limit n : Nat} (small : n ≤ limit) (ds : List Char) :
    (Numeral.accumulate limit n ds).1 ≤ limit := by
  induction ds generalizing n with
  | nil => exact small
  | cons d ds ih =>
    rw [Numeral.accumulate]
    split
    · rename_i fits
      exact ih fits
    · exact small

private theorem eq_of_unless {ε α : Type} {p : Prop} [Decidable p] {e : ε} {a b : α}
    (known : (if p then .error e else .ok a : Except ε α) = .ok b) : b = a := by
  by_cases refused : p
  · rw [if_pos refused] at known
    cases known
  · rw [if_neg refused] at known
    exact (Except.ok.inj known).symm

/-- The floats that numerals stand for: a whole number of 64 bits, which may be scaled by a power of
ten, with either sign, and zero. -/
inductive Numeral.Spelled : Float → Prop
  | whole {n : Nat} (small : n ≤ largestWhole) : Spelled (-(Float.ofNat n))
  | scaled {n : Nat} {power : Int} {x : Float} (small : n ≤ largestWhole)
      (reached : scale (Float.ofNat n) power = some x) (negative : Bool) :
      Spelled (withSign negative x)
  | zero (negative : Bool) : Spelled (withSign negative 0)

/-- A significand that is scaled, as far as floats reach. -/
private theorem spelled_of_scale {n : Nat} {power : Int} {m : Number}
    (small : n ≤ Numeral.largestWhole)
    (known : (match Numeral.scale (Float.ofNat n) power with
      | some x => .ok (.real (Numeral.withSign negative x))
      | none => .error 0 : Except Nat Number) = .ok m) : ∃ x, m = .real x ∧ Numeral.Spelled x := by
  cases reached : Numeral.scale (Float.ofNat n) power with
  | none =>
    rw [reached] at known
    cases known
  | some x =>
    rw [reached] at known
    cases known
    exact ⟨_, rfl, .scaled small reached negative⟩

/-- What a numeral stands for is a float, unless it has neither a fraction nor an exponent. -/
theorem Numeral.value_cases {m : Number} (known : numeral.value = .ok m) :
    (∃ x, m = .real x ∧ Spelled x) ∨
      numeral.fraction = [] ∧ numeral.exponent = none ∧ m.Readable ∧ ∀ x, m ≠ .real x := by
  have fits := accumulate_le (Nat.zero_le largestWhole) numeral.whole
  have significant : (if numeral.fraction.isEmpty then
      ((accumulate largestWhole 0 numeral.whole).1, []) else accumulate largestWhole
        (accumulate largestWhole 0 numeral.whole).1 numeral.fraction).1 ≤ largestWhole := by
    split
    · exact fits
    · exact accumulate_le fits _
  unfold value at known
  dsimp only at known
  split at known
  · rename_i whole
    simp only [Bool.and_eq_true, List.isEmpty_iff, Option.isNone_iff_eq_none] at whole
    split at known
    · cases known
      exact .inr ⟨whole.1.1, whole.1.2, fits, nofun⟩
    · split at known
      · rename_i range
        cases known
        exact .inr ⟨whole.1.1, whole.1.2, range, nofun⟩
      · cases known
        exact .inl ⟨_, rfl, .whole fits⟩
  · left
    split at known
    · exact spelled_of_scale significant known
    · split at known
      · exact spelled_of_scale significant known
      · exact ⟨_, eq_of_unless known, .zero _⟩

theorem Numeral.value_readable {m : Number} (known : numeral.value = .ok m) : m.Readable := by
  rcases value_cases known with ⟨x, rfl, -⟩ | ⟨-, -, readable, -⟩
  · trivial
  · exact readable

/-- A numeral with a fraction or an exponent stands for a float, whatever its digits. -/
theorem Numeral.value_real (marked : numeral.fraction ≠ [] ∨ numeral.exponent ≠ none) {m : Number}
    (known : numeral.value = .ok m) : ∃ x, m = .real x := by
  rcases value_cases known with ⟨x, real, -⟩ | ⟨fraction, exponent, -⟩
  · exact ⟨x, real⟩
  · exact (marked.elim (· fraction) (· exponent)).elim

end CanvasLint.Json
