import CanvasLint.Json.Reader
import CanvasLint.Proofs.Json.Positions
import CanvasLint.Proofs.Json.Readers
import Mathlib.Data.List.TakeWhile

/-! Where reading stops. Everything in a JSON text but the insides of strings is of characters of one
byte, so that the last byte that was looked at begins a character wherever reading stops, save in two
places: the text may end within a string, behind a character of several bytes, and the four bytes that
an escape takes may end within one. What is true of the parts of a text is true of the whole. -/
namespace CanvasLint

open Text (Reader Rest Tail bytes)

variable {α β : Type} {s t u rest p : List Char} {c : Char} {k : Nat}

/-! ### Characters of one byte -/

namespace Text

/-- The character takes one byte. -/
def Narrow (c : Char) : Prop :=
  c.utf8Size = 1

theorem narrow_of_lt (small : c.toNat < 128) : Narrow c :=
  Char.utf8Size_eq_one_iff.mpr (UInt32.le_iff_toNat_le.mpr (Nat.le_of_lt_succ small))

theorem narrow_of_isDigit (digit : c.isDigit = true) : Narrow c := by
  rw [Char.isDigit, Bool.and_eq_true, decide_eq_true_iff, decide_eq_true_iff] at digit
  have upper : c.toNat ≤ 57 := UInt32.le_iff_toNat_le.mp digit.2
  exact narrow_of_lt (by omega)

/-- The rest is what is left of the text behind a character of one byte, if anything is gone. -/
def Past (s rest : List Char) : Prop :=
  s = rest ∨ ∃ front c, s = front ++ c :: rest ∧ Narrow c

theorem Past.refl (s : List Char) : Past s s :=
  .inl rfl

theorem past_cons (narrow : Narrow c) (s : List Char) : Past (c :: s) s :=
  .inr ⟨[], c, rfl, narrow⟩

theorem Past.trans (first : Past s t) (second : Past t u) : Past s u := by
  rcases first with rfl | ⟨front, c, rfl, narrow⟩
  · exact second
  · rcases second with rfl | ⟨between, d, rfl, narrow'⟩
    · exact .inr ⟨front, c, rfl, narrow⟩
    · exact .inr ⟨front ++ c :: between, d, by simp, narrow'⟩

theorem past_append (narrow : ∀ c ∈ p, Narrow c) (s : List Char) : Past (p ++ s) s := by
  induction p with
  | nil => exact .refl s
  | cons c p ih =>
    exact (past_cons (narrow c List.mem_cons_self) _).trans
      (ih fun d listed => narrow d (List.mem_cons_of_mem _ listed))

theorem Past.exists_last (past : Past s rest) (gone : rest.length < s.length) :
    ∃ front c, s = front ++ c :: rest ∧ Narrow c :=
  past.resolve_left fun same => absurd gone (by rw [same]; exact Nat.lt_irrefl _)

/-- If something is gone already, any character may come before it. -/
theorem Past.behind (past : Past s rest) (gone : rest.length < s.length) (c : Char) :
    Past (c :: s) rest := by
  obtain ⟨front, d, rfl, narrow⟩ := past.exists_last gone
  exact .inr ⟨c :: front, d, rfl, narrow⟩

theorem bytes_append (s t : List Char) : bytes (s ++ t) = bytes s + bytes t := by
  induction s with
  | nil => exact (Nat.zero_add _).symm
  | cons c s ih => rw [List.cons_append, bytes, bytes, ih, Nat.add_assoc]

theorem bytes_of_narrow (narrow : ∀ c ∈ p, Narrow c) : bytes p = p.length := by
  induction p with
  | nil => rfl
  | cons c p ih =>
    have one : c.utf8Size = 1 := narrow c List.mem_cons_self
    rw [bytes, one, ih fun d listed => narrow d (List.mem_cons_of_mem _ listed), List.length_cons,
      Nat.add_comm]

/-- Every byte of a text lies in one of its characters. -/
theorem exists_char_at (inside : k < bytes s) : ∃ front c rest, s = front ++ c :: rest ∧
    bytes front ≤ k ∧ k < bytes front + c.utf8Size := by
  induction s generalizing k with
  | nil => exact absurd inside (Nat.not_lt_zero k)
  | cons c s ih =>
    by_cases here : k < c.utf8Size
    · exact ⟨[], c, s, rfl, Nat.zero_le k, by rw [bytes]; omega⟩
    · rw [bytes] at inside
      have later : k - c.utf8Size < bytes s := by omega
      obtain ⟨front, d, rest, rfl, lower, upper⟩ := ih later
      exact ⟨c :: front, d, rest, rfl, by rw [bytes]; omega, by rw [bytes]; omega⟩

end Text

open Text

namespace Json

variable {fault : Fault}

/-! ### Places of faults -/

/-- The last byte that was looked at lies within a character: of the last character of a text that
ends within a string, or of a character that the four bytes of an escape cut through. -/
inductive Fault.Cuts (s : List Char) : Fault → Prop
  | atEnd (front : List Char) (c : Char) (split : s = front ++ [c]) (wide : 1 < c.utf8Size) :
      Cuts s (.atEnd .endInString)
  | inEscape (front code rest : List Char) (c : Char)
      (split : s = front ++ '\\' :: 'u' :: (code ++ c :: rest)) (before : bytes code < 3)
      (beyond : 3 < bytes code + c.utf8Size) :
      Cuts s ⟨.invalidEscape, bytes (code ++ c :: rest) - 4⟩

/-- Where a fault of a text stands: the last byte that was looked at begins a character, or there is
none, or it lies within a character. -/
inductive Fault.Stands (s : List Char) (fault : Fault) : Prop
  | onto (front rest : List Char) (c : Char) (split : s = front ++ c :: rest)
      (left : fault.left = bytes (c :: rest) - 1)
  | nowhere (empty : s = []) (left : fault.left = 0)
  | within (cuts : fault.Cuts s)

namespace Fault

theorem Cuts.append (cuts : fault.Cuts s) (p : List Char) : fault.Cuts (p ++ s) := by
  cases cuts with
  | atEnd front c split wide =>
    exact .atEnd (p ++ front) c (by rw [split, List.append_assoc]) wide
  | inEscape front code rest c split before beyond =>
    exact .inEscape (p ++ front) code rest c (by rw [split, List.append_assoc]) before beyond

/-- A fault of what is left is a fault of the text. -/
theorem Stands.of_past (past : Past s t) (stands : fault.Stands t) : fault.Stands s := by
  rcases past with rfl | ⟨front, c, rfl, narrow⟩
  · exact stands
  · cases stands with
    | onto between rest d split left =>
      exact .onto (front ++ c :: between) rest d (by rw [split]; simp) left
    | nowhere empty left =>
      subst empty
      refine .onto front [] c rfl ?_
      have one : c.utf8Size = 1 := narrow
      rw [left, bytes, one, bytes]
    | within cuts =>
      have further := cuts.append (front ++ [c])
      rw [List.append_assoc] at further
      exact .within further

/-- Any character may come before a text that has some. -/
theorem Stands.cons (stands : fault.Stands s) (some : s ≠ []) (c : Char) :
    fault.Stands (c :: s) := by
  cases stands with
  | onto front rest d split left => exact .onto (c :: front) rest d (by rw [split]; rfl) left
  | nowhere empty left => exact absurd empty some
  | within cuts => exact .within (cuts.append [c])

theorem stands_upon (cause : Cause) (c : Char) (s : List Char) :
    (Fault.upon cause (c :: s)).Stands (c :: s) :=
  .onto [] s c rfl rfl

theorem stands_atEnd (cause : Cause) : (Fault.atEnd cause).Stands [] :=
  .nowhere rfl rfl

/-- Stopping behind a character of one byte is stopping upon it. -/
theorem stands_of_left (past : Past s rest) (gone : rest.length < s.length) (cause : Cause) :
    Stands s ⟨cause, bytes rest⟩ := by
  obtain ⟨front, c, rfl, narrow⟩ := past.exists_last gone
  have one : c.utf8Size = 1 := narrow
  refine .onto front rest c rfl ?_
  rw [bytes, one]
  exact (Nat.add_sub_cancel_left 1 _).symm

end Fault

/-- What comes of reading: something good with what is left, or a fault at its place. -/
def Leads {left : List Char → Prop} (good : α → List Char → Prop) (s : List Char) :
    Except Fault (α × { rest // left rest }) → Prop
  | .ok (a, rest) => good a rest.1
  | .error fault => fault.Stands s

/-- The reader leaves what comes behind a character of one byte, and its faults have their places. -/
abbrev Steady {left : List Char → Prop} (s : List Char)
    (read : Except Fault (α × { rest // left rest })) : Prop :=
  Leads (fun _ rest => Past s rest) s read

section Readers

variable {r : Reader Fault α}

theorem steady_map (f : α → β) (steady : Steady s (r s)) : Steady s (Reader.map f r s) := by
  unfold Reader.map
  cases read : r s with
  | ok p => rw [read] at steady; exact steady
  | error fault => rw [read] at steady; exact steady

theorem steady_onTail {tail : Tail s} (past : Past s tail.1) (steady : Steady tail.1 (r tail.1)) :
    Steady s (Reader.onTail r tail) := by
  unfold Reader.onTail
  cases read : r tail.1 with
  | ok p => rw [read] at steady; exact past.trans steady
  | error fault => rw [read] at steady; exact steady.of_past past

theorem steady_onRest {left : Rest s} (past : Past s left.1) (steady : Steady left.1 (r left.1)) :
    Steady s (Reader.onRest r left) := by
  unfold Reader.onRest
  cases read : r left.1 with
  | ok p => rw [read] at steady; exact past.trans steady
  | error fault => rw [read] at steady; exact steady.of_past past

theorem steady_behind {read : Except Fault (α × Rest s)} (narrow : Narrow c)
    (steady : Steady s read) : Steady (c :: s) (Reader.behind c read) := by
  cases read with
  | ok p => exact (past_cons narrow s).trans steady
  | error fault => exact Fault.Stands.of_past (past_cons narrow s) steady

theorem narrow_of_isSpace (space : isSpace c = true) : Narrow c := by
  simp only [isSpace, Bool.or_eq_true, decide_eq_true_eq] at space
  rcases space with ((rfl | rfl) | rfl) | rfl <;> rfl

theorem past_skipSpace (s : List Char) : Past s (skipSpace s) := by
  have blank : ∀ c ∈ s.takeWhile isSpace, Narrow c := fun c listed =>
    narrow_of_isSpace (List.mem_takeWhile_imp listed)
  have split := past_append blank (skipSpace s)
  rwa [skipSpace, List.takeWhile_append_dropWhile] at split

theorem steady_pastSpace (steady : ∀ t, Steady t (r t)) (s : List Char) :
    Steady s (pastSpace r s) :=
  steady_onTail (past_skipSpace s) (steady _)

theorem first?_eq_none (blank : skipSpace s = []) : first? s = none := by
  unfold first? skipSpace at *
  induction s with
  | nil => rfl
  | cons c s ih =>
    rw [List.dropWhile_cons] at blank
    split at blank
    · rename_i space
      rw [Text.firstBeyond?, if_pos space, ih blank]
      rfl
    · cases blank

/-- A text of blanks is at fault where it ends. -/
theorem stands_of_blank (blank : skipSpace s = []) (cause : Cause) :
    (Fault.atEnd cause).Stands s := by
  have past := past_skipSpace s
  rw [blank] at past
  exact Fault.Stands.of_past past (Fault.stands_atEnd cause)

end Readers

end Json

end CanvasLint
