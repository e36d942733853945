import CanvasLint.Json.Reader
import CanvasLint.Json.Writer
import Mathlib.Data.List.Basic

/-! What a reader takes and what it leaves, as plain values. Readers carry in their types that they
leave less than they were given; to say what they read of a written text, only what is left matters.
Strings are read back here, and lists and objects one step at a time. -/
namespace CanvasLint

open Text (Rest Tail Reader)

variable {ε α β σ : Type} {s t rest : List Char} {c : Char}

namespace Text

/-- What was read and what is left, unless reading failed. -/
def taken {left : List Char → Prop} : Except ε (α × { rest // left rest }) → Option (α × List Char)
  | .ok (a, rest) => some (a, rest.1)
  | .error _ => none

@[simp]
theorem taken_ok {left : List Char → Prop} (a : α) (r : { rest // left rest }) :
    taken (.ok (a, r) : Except ε (α × { rest // left rest })) = some (a, r.1) := rfl

@[simp]
theorem taken_error {left : List Char → Prop} (e : ε) :
    taken (.error e : Except ε (α × { rest // left rest })) = none := rfl

theorem taken_eq_some {left : List Char → Prop} {x : Except ε (α × { rest // left rest })} {a : α} :
    taken x = some (a, rest) ↔ ∃ fits, x = .ok (a, ⟨rest, fits⟩) := by
  constructor
  · intro read
    match x with
    | .ok (a', r) =>
      simp only [taken_ok, Option.some.injEq, Prod.mk.injEq] at read
      obtain ⟨rfl, rfl⟩ := read
      exact ⟨r.2, rfl⟩
    | .error e => cases read
  · rintro ⟨fits, rfl⟩
    rfl

namespace Reader

@[simp]
theorem taken_map (f : α → β) (r : Reader ε α) (s : List Char) :
    taken (Reader.map f r s) = (taken (r s)).map (Prod.map f id) := by
  unfold Reader.map
  cases r s <;> rfl

@[simp]
theorem taken_onTail (r : Reader ε α) (tail : Tail s) : taken (onTail r tail) = taken (r tail.1) := by
  unfold onTail
  cases r tail.1 <;> rfl

@[simp]
theorem taken_onRest (r : Reader ε α) (left : Rest s) : taken (onRest r left) = taken (r left.1) := by
  unfold onRest
  cases r left.1 <;> rfl

@[simp]
theorem taken_behind (c : Char) (x : Except ε (α × Rest s)) : taken (behind c x) = taken x := by
  cases x <;> rfl

end Reader

theorem Rest.past_val (front : List Char) (left : Rest s) : (left.past front).1 = left.1 := by
  induction front with
  | nil => rfl
  | cons c front ih => exact ih

private theorem firstBeyond?_eq_some {p : Char → Bool} (gone : s.dropWhile p = c :: t) :
    ∃ fits, firstBeyond? p s = some (c, ⟨t, fits⟩) := by
  induction s with
  | nil => cases gone
  | cons d s ih =>
    rw [List.dropWhile_cons] at gone
    split at gone
    · rename_i passed
      obtain ⟨fits, found⟩ := ih gone
      refine ⟨Nat.lt_succ_of_lt fits, ?_⟩
      rw [firstBeyond?, if_pos passed, found]
      rfl
    · rename_i stays
      cases gone
      exact ⟨Nat.lt_succ_self _, if_neg stays⟩

end Text

namespace Json

open Text (taken taken_eq_some)

@[simp]
theorem taken_pastSpace (r : Reader Fault α) (s : List Char) :
    taken (pastSpace r s) = taken (r (skipSpace s)) :=
  Reader.taken_onTail r _

theorem first?_eq_some (gone : skipSpace s = c :: t) : ∃ fits, first? s = some (c, ⟨t, fits⟩) :=
  Text.firstBeyond?_eq_some gone

theorem skipSpace_append {blank : List Char} (spaces : ∀ c ∈ blank, isSpace c) (s : List Char) :
    skipSpace (blank ++ s) = skipSpace s := by
  induction blank with
  | nil => rfl
  | cons c blank ih =>
    have passed : isSpace c = true := spaces c List.mem_cons_self
    rw [List.cons_append, skipSpace, List.dropWhile_cons, if_pos passed]
    exact ih fun d member => spaces d (List.mem_cons_of_mem _ member)

theorem skipSpace_cons (visible : isSpace c = false) (s : List Char) :
    skipSpace (c :: s) = c :: s :=
  List.dropWhile_cons_of_neg (by simp [visible])

/-! ### Strings -/

/-- The code in an escape that has one. -/
private def escapedCode? : List Char → Option Nat
  | ['\\', 'u', a, b, d, e] => Quoted.codeOf? a b d e
  | _ => none

private theorem codeEscape_eq : ∀ n : Fin 32, ∃ a b d e,
    codeEscape (Char.ofNat n) = ['\\', 'u', a, b, d, e] ∧ Quoted.codeOf? a b d e = some n.1 := by
  have each : ∀ n : Fin 32, escapedCode? (codeEscape (Char.ofNat n)) = some n.1 := by
    decide
  intro n
  have found := each n
  rw [escapedCode?.eq_def] at found
  split at found
  · rename_i a b d e whole
    exact ⟨a, b, d, e, whole, found⟩
  · cases found

private theorem taken_readCode {a b d e : Char} {n : Nat} (code : Quoted.codeOf? a b d e = some n)
    (small : n < 0xD800) (s : List Char) :
    taken (Quoted.readCode (a :: b :: d :: e :: s)) = some (Char.ofNat n, s) := by
  have trailing : Quoted.isTrailingSurrogate n = false := by
    simp [Quoted.isTrailingSurrogate]; omega
  have leading : Quoted.isLeadingSurrogate n = false := by
    simp [Quoted.isLeadingSurrogate]; omega
  simp only [Quoted.readCode, Quoted.readHex, code, trailing, leading, Bool.false_eq_true, if_false,
    Text.taken_ok, Text.Rest.past_val]
  rfl

private theorem taken_readChars_escape (escape : taken (Quoted.readEscape t) = some (c, s)) :
    taken (Quoted.readChars ('\\' :: t)) =
      (taken (Quoted.readChars s)).map (Prod.map (c :: ·) id) := by
  obtain ⟨fits, read⟩ := taken_eq_some.mp escape
  rw [Quoted.readChars, read]
  dsimp only
  cases Quoted.readChars s <;> rfl

/-- A character is written with an escape of one letter, by its code, or as it is. -/
private theorem writeChar_cases (c : Char) :
    (∃ x, writeChar c = ['\\', x] ∧ Quoted.shortEscapes.lookup x = some c) ∨
      (c.toNat < 0x20 ∧ writeChar c = codeEscape c) ∨
      (¬ c.toNat < 0x20 ∧ c ≠ '"' ∧ c ≠ '\\' ∧ writeChar c = [c]) := by
  by_cases short : c ∈ ['"', '\\', '\x08', '\x0c', '\n', '\r', '\t']
  · simp only [List.mem_cons, List.not_mem_nil, or_false] at short
    rcases short with rfl | rfl | rfl | rfl | rfl | rfl | rfl <;> exact .inl ⟨_, rfl, rfl⟩
  · simp only [List.mem_cons, List.not_mem_nil, or_false, not_or] at short
    obtain ⟨quote, slash, back, feed, line, carriage, tab⟩ := short
    right
    rw [writeChar, if_neg quote, if_neg slash, if_neg back, if_neg feed, if_neg line,
      if_neg carriage, if_neg tab]
    by_cases control : c.toNat < 0x20
    · exact .inl ⟨control, if_pos control⟩
    · exact .inr ⟨control, quote, slash, if_neg control⟩

/-- A written character is read as itself. -/
private theorem taken_readChars_writeChar (c : Char) (s : List Char) :
    taken (Quoted.readChars (writeChar c ++ s)) =
      (taken (Quoted.readChars s)).map (Prod.map (c :: ·) id) := by
  rcases writeChar_cases c with ⟨x, written, short⟩ | ⟨control, written⟩ |
    ⟨plain, quote, slash, written⟩
  · rw [written]
    refine taken_readChars_escape ?_
    change taken (Quoted.readEscape (x :: s)) = some (c, s)
    rw [Quoted.readEscape, short]
    rfl
  · obtain ⟨a, b, d, e, escape, code⟩ := codeEscape_eq ⟨c.toNat, control⟩
    rw [Char.ofNat_toNat] at escape
    rw [written, escape]
    refine taken_readChars_escape ?_
    have read := taken_readCode code (by dsimp only; omega) s
    rw [Char.ofNat_toNat] at read
    exact (Reader.taken_behind _ _).trans read
  · rw [written, List.singleton_append, Quoted.readChars, if_neg plain]
    · cases Quoted.readChars s <;> rfl
    · exact quote
    · exact slash

/-- A written string is read as itself. -/
theorem taken_read_writeString (text : String) (s : List Char) :
    taken (Quoted.read (text.toList.flatMap writeChar ++ '"' :: s)) = some (text, s) := by
  have chars (cs : List Char) :
      taken (Quoted.readChars (cs.flatMap writeChar ++ '"' :: s)) = some (cs, s) := by
    induction cs with
    | nil => rw [List.flatMap_nil, List.nil_append, Quoted.readChars]; rfl
    | cons c cs ih =>
      rw [List.flatMap_cons, List.append_assoc, taken_readChars_writeChar, ih]
      rfl
  rw [Quoted.read, Reader.taken_map, chars, Option.map_some, Prod.map_apply, String.ofList_toList]
  rfl

/-! ### Lists and objects -/

section Layout

open Layout

variable {item : Reader Fault α} {first : Bool} {u w : List Char} {state : σ} {key : String}
  {value : String → Except Mismatch (Reader Fault σ)} {assigned : Reader Fault σ}
  {member : σ → String → Except Mismatch (Reader Fault σ)}

theorem taken_readItems_close (close : skipSpace s = ']' :: t) :
    taken (readItems item first s) = some ([], t) := by
  obtain ⟨fits, found⟩ := first?_eq_some close
  rw [readItems, found]
  rfl

theorem taken_readItems_first (opened : skipSpace s = c :: t) (more : c ≠ ']') :
    taken (readItems item true s) = (taken (item s)).bind fun p =>
      (taken (readItems item false p.2)).map (Prod.map (p.1 :: ·) id) := by
  obtain ⟨fits, found⟩ := first?_eq_some opened
  rw [readItems, found]
  simp only [if_neg more, if_true]
  cases item s with
  | error fault => rfl
  | ok p =>
    change _ = (taken (readItems item false p.2.1)).map (Prod.map (p.1 :: ·) id)
    dsimp only
    cases readItems item false p.2.1 <;> rfl

theorem taken_readItems_next (comma : skipSpace s = ',' :: t) (opened : skipSpace t = c :: u)
    (more : c ≠ ']') :
    taken (readItems item false s) = (taken (item (c :: u))).bind fun p =>
      (taken (readItems item false p.2)).map (Prod.map (p.1 :: ·) id) := by
  obtain ⟨fits, found⟩ := first?_eq_some comma
  have after : taken (Reader.onRest (afterComma ']' item) ⟨t, fits⟩) = taken (item (c :: u)) := by
    rw [Reader.taken_onRest, afterComma, taken_pastSpace, opened]
    dsimp only
    rw [if_neg more]
  rw [readItems, found, ← after]
  simp only [Bool.false_eq_true, if_false, if_true, if_neg (show (',' : Char) ≠ ']' by decide)]
  cases Reader.onRest (afterComma ']' item) ⟨t, fits⟩ with
  | error fault => rfl
  | ok p =>
    change _ = (taken (readItems item false p.2.1)).map (Prod.map (p.1 :: ·) id)
    dsimp only
    cases readItems item false p.2.1 <;> rfl

theorem taken_readMember (quoted : skipSpace s = '"' :: t)
    (named : taken (Quoted.read t) = some (key, u)) (known : value key = .ok assigned)
    (colon : skipSpace u = ':' :: w) : taken (readMember value s) = taken (assigned w) := by
  obtain ⟨fits, read⟩ := taken_eq_some.mp named
  obtain ⟨fits', found⟩ := first?_eq_some colon
  rw [readMember, taken_pastSpace, quoted]
  simp only [if_true, read, known, Reader.taken_behind, Reader.taken_onRest, readAssigned,
    readColon, found]

theorem taken_readMembers_close (close : skipSpace s = '\x7d' :: t) :
    taken (readMembers member first state s) = some (state, t) := by
  obtain ⟨fits, found⟩ := first?_eq_some close
  rw [readMembers, found]
  rfl

theorem taken_readMembers_first (opened : skipSpace s = c :: t) (more : c ≠ '\x7d') :
    taken (readMembers member true state s) = (taken (readMember (member state) s)).bind fun p =>
      taken (readMembers member false p.1 p.2) := by
  obtain ⟨fits, found⟩ := first?_eq_some opened
  rw [readMembers, found]
  simp only [if_neg more, if_true]
  cases readMember (member state) s with
  | error fault => rfl
  | ok p =>
    change _ = taken (readMembers member false p.1 p.2.1)
    dsimp only
    cases readMembers member false p.1 p.2.1 <;> rfl

theorem taken_readMembers_next (comma : skipSpace s = ',' :: t) (opened : skipSpace t = c :: u)
    (more : c ≠ '\x7d') :
    taken (readMembers member false state s) =
      (taken (readMember (member state) (c :: u))).bind fun p =>
        taken (readMembers member false p.1 p.2) := by
  obtain ⟨fits, found⟩ := first?_eq_some comma
  have after : taken (Reader.onRest (afterComma '\x7d' (readMember (member state))) ⟨t, fits⟩) =
      taken (readMember (member state) (c :: u)) := by
    rw [Reader.taken_onRest, afterComma, taken_pastSpace, opened]
    dsimp only
    rw [if_neg more]
  rw [readMembers, found, ← after]
  simp only [Bool.false_eq_true, if_false, if_true, if_neg (show (',' : Char) ≠ '\x7d' by decide)]
  cases Reader.onRest (afterComma '\x7d' (readMember (member state))) ⟨t, fits⟩ with
  | error fault => rfl
  | ok p =>
    change _ = taken (readMembers member false p.1 p.2.1)
    dsimp only
    cases readMembers member false p.1 p.2.1 <;> rfl

/-! ### What lists and objects are made of -/

private theorem exists_of_afterComma {closing : Char} {r : Reader Fault α} {a : α}
    (read : taken (afterComma closing r s) = some (a, rest)) :
    ∃ s', taken (r s') = some (a, rest) := by
  rw [afterComma, taken_pastSpace] at read
  generalize skipSpace s = t at read
  match t with
  | [] => cases read
  | c :: t =>
    dsimp only at read
    split at read
    · cases read
    · exact ⟨_, read⟩

/-- The next part of a list or an object, the first one or one behind a comma, is something its
reader gives. -/
private theorem exists_of_next {part : Reader Fault α} {left : Rest s} {closing : Char}
    {cause : Cause} {a : α}
    (read : taken (if first then part s
      else if c = ',' then Reader.onRest (afterComma closing part) left
      else .error (.upon cause (c :: left.1))) = some (a, rest)) :
    ∃ s', taken (part s') = some (a, rest) := by
  split at read
  · exact ⟨s, read⟩
  · split at read
    · rw [Reader.taken_onRest] at read
      exact exists_of_afterComma read
    · cases read

/-- Whatever holds of all that the item reader gives holds of the items. -/
theorem forall_of_readItems {holds : α → Prop}
    (each : ∀ s a rest, taken (item s) = some (a, rest) → holds a) {as : List α}
    (read : taken (readItems item first s) = some (as, rest)) : ∀ a ∈ as, holds a := by
  suffices every : ∀ p, taken (readItems item first s) = some p → ∀ a ∈ p.1, holds a from
    every (as, rest) read
  clear read
  fun_induction readItems item first s with intro p read
  | case1 first s none => cases read
  | case2 first s left found =>
    cases read
    exact fun a listed => absurd listed List.not_mem_nil
  | case3 first s c left found more next fault failed => cases read
  | case4 first s c left found more next a r given fault failed ih => cases read
  | case5 first s c left found more next a r given others r' gathered ih =>
    cases read
    obtain ⟨s', front⟩ := exists_of_next (taken_eq_some.mpr ⟨r.2, given⟩)
    have back := ih (others, r'.1) (taken_eq_some.mpr ⟨r'.2, gathered⟩)
    exact List.forall_mem_cons.mpr ⟨each s' a r.1 front, back⟩

private theorem exists_of_readMember {state' : σ}
    (read : taken (readMember value s) = some (state', rest)) :
    ∃ key r s', value key = .ok r ∧ taken (r s') = some (state', rest) := by
  rw [readMember, taken_pastSpace] at read
  generalize skipSpace s = t at read
  match t with
  | [] => cases read
  | c :: t =>
    dsimp only at read
    split at read
    · split at read
      · cases read
      · rename_i key u quoted
        split at read
        · cases read
        · rename_i r known
          rw [Reader.taken_behind, Reader.taken_onRest, readAssigned] at read
          split at read
          · cases read
          · rw [Reader.taken_onRest] at read
            exact ⟨key, r, _, known, read⟩
    · cases read

/-- Whatever holds at first and is kept by every member holds of what is gathered in the end. -/
theorem of_readMembers {holds : σ → Prop}
    (each : ∀ state key r, holds state → member state key = .ok r →
      ∀ s state' rest, taken (r s) = some (state', rest) → holds state')
    (start : holds state) {final : σ}
    (read : taken (readMembers member first state s) = some (final, rest)) : holds final := by
  revert final rest
  fun_induction readMembers member first state s with intro rest final read
  | case1 first state s none => cases read
  | case2 first state s left found =>
    cases read
    exact start
  | case3 first state s c left found more next fault failed => cases read
  | case4 first state s c left found more next state' r given fault failed ih => cases read
  | case5 first state s c left found more next state' r given final' r' gathered ih =>
    cases read
    obtain ⟨s', whole⟩ := exists_of_next (taken_eq_some.mpr ⟨r.2, given⟩)
    obtain ⟨key, reader, s'', known, assigned⟩ := exists_of_readMember whole
    have kept : holds state' := each state key reader start known s'' state' r.1 assigned
    exact ih kept (taken_eq_some.mpr ⟨r'.2, gathered⟩)

end Layout

end Json

end CanvasLint
