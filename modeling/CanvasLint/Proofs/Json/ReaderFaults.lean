import CanvasLint.Proofs.Json.ScalarFaults

/-! Faults of lists, objects and whole texts. A list or an object is at fault where one of its parts
is, or upon a character of its own, which takes one byte; a text may also be at fault behind its
value. -/
namespace CanvasLint.Json

open Text (Reader Rest Narrow Past past_cons)

variable {α σ : Type} {s t : List Char} {c : Char} {fault : Fault} {r : Reader Fault α}

/-! ### Lists and objects -/

namespace Layout

/-- A word is of characters of one byte, and its first letter has been taken. -/
theorem steady_readLiteral (a : α) {word : List Char} (letters : ∀ w ∈ word, Narrow w)
    (narrow : Narrow c) (t : List Char) : Steady (c :: t) (readLiteral a word c t) := by
  have others : ∀ s, (∀ left, readWord word s = .ok left → Past s left.1) ∧
      ∀ fault, readWord word s = .error fault → fault.Stands s := by
    induction word with
    | nil => exact fun s => ⟨fun left same => by cases same; exact .refl s, nofun⟩
    | cons w word ih =>
      intro s
      cases s with
      | nil => exact ⟨nofun, fun fault same => by cases same; exact Fault.stands_atEnd _⟩
      | cons c t =>
        rw [readWord]
        split
        · rename_i same
          have before := past_cons (same ▸ letters w List.mem_cons_self : Narrow c) t
          obtain ⟨past, stands⟩ := ih (fun w' listed => letters w' (List.mem_cons_of_mem _ listed)) t
          cases read : readWord word t with
          | ok left =>
            refine ⟨fun left' same => ?_, nofun⟩
            cases same
            exact before.trans (past left read)
          | error fault =>
            refine ⟨nofun, fun fault' same => ?_⟩
            cases same
            exact Fault.Stands.of_past before (stands fault read)
        · exact ⟨nofun, fun fault same => by cases same; exact Fault.stands_upon _ c t⟩
  obtain ⟨past, stands⟩ := others t
  unfold readLiteral
  cases read : readWord word t with
  | ok left => exact (past_cons narrow t).trans (past left read)
  | error fault => exact Fault.Stands.of_past (past_cons narrow t) (stands fault read)

theorem steady_afterComma {r : Reader Fault α} (steady : ∀ s, Steady s (r s)) (closing : Char)
    (s : List Char) : Steady s (afterComma closing r s) := by
  refine steady_pastSpace (fun t => ?_) s
  cases t with
  | nil => exact Fault.stands_atEnd .endInValue
  | cons c t =>
    dsimp only
    split
    · exact Fault.stands_upon .trailingComma c t
    · exact steady (c :: t)

/-- The first character that is no blank stands behind blanks. -/
theorem past_of_first? {left : Rest s} (found : first? s = some (c, left)) :
    Past s (c :: left.1) := by
  have past := past_skipSpace s
  cases visible : skipSpace s with
  | nil =>
    rw [first?_eq_none visible] at found
    cases found
  | cons d t =>
    obtain ⟨fits, found'⟩ := first?_eq_some visible
    rw [found'] at found
    cases found
    rwa [visible] at past

theorem stands_of_first? (none : first? s = none) (cause : Cause) :
    (Fault.atEnd cause).Stands s := by
  refine stands_of_blank ?_ cause
  cases visible : skipSpace s with
  | nil => rfl
  | cons d t =>
    obtain ⟨fits, found⟩ := first?_eq_some visible
    rw [found] at none
    cases none

/-- The next part of a list or an object: the first one, or one behind a comma. -/
private theorem steady_next {part : Reader Fault α} {first : Bool} {left : Rest s}
    (steady : ∀ s, Steady s (part s)) (found : first? s = some (c, left)) (closing : Char)
    (cause : Cause) :
    Steady s (if first then part s
      else if c = ',' then Reader.onRest (afterComma closing part) left
      else .error (.upon cause (c :: left.1))) := by
  have past := past_of_first? found
  split
  · exact steady s
  · split
    · rename_i comma
      have behind : Past s left.1 := past.trans (past_cons (comma ▸ rfl : Narrow c) left.1)
      exact steady_onRest behind (steady_afterComma steady closing left.1)
    · exact Fault.Stands.of_past past (Fault.stands_upon cause c left.1)

theorem steady_readItems {item : Reader Fault α} (steady : ∀ s, Steady s (item s)) (first : Bool)
    (s : List Char) : Steady s (readItems item first s) := by
  fun_induction readItems item first s with
  | case1 first s none => exact stands_of_first? none .endInList
  | case2 first s left found =>
    exact (past_of_first? found).trans (past_cons (c := ']') rfl left.1)
  | case3 first s c left found more next fault failed =>
    have part : Steady s next := steady_next steady found ']' .expectedListCommaOrEnd
    rwa [failed] at part
  | case4 first s c left found more next a rest given fault failed ih =>
    have part : Steady s next := steady_next steady found ']' .expectedListCommaOrEnd
    rw [given] at part
    rw [failed] at ih
    exact Fault.Stands.of_past part ih
  | case5 first s c left found more next a rest given as rest' others ih =>
    have part : Steady s next := steady_next steady found ']' .expectedListCommaOrEnd
    rw [given] at part
    rw [others] at ih
    exact Past.trans part ih

theorem steady_readAssigned {value : Reader Fault α} (steady : ∀ s, Steady s (value s))
    (s : List Char) : Steady s (readAssigned value s) := by
  unfold readAssigned readColon
  cases found : first? s with
  | none => exact stands_of_first? found .endInObject
  | some given =>
    obtain ⟨c, left⟩ := given
    dsimp only
    split
    · rename_i fault failed
      split at failed
      · cases failed
      · cases failed
        exact Fault.Stands.of_past (past_of_first? found) (Fault.stands_upon _ c left.1)
    · rename_i left' read
      split at read
      · rename_i colon
        cases read
        have behind : Past s left.1 :=
          (past_of_first? found).trans (past_cons (colon ▸ rfl : Narrow c) left.1)
        exact steady_onRest behind (steady left.1)
      · cases read

theorem steady_readMember {value : String → Except Mismatch (Reader Fault σ)}
    (steady : ∀ key r, value key = .ok r → ∀ s, Steady s (r s)) (s : List Char) :
    Steady s (readMember value s) := by
  refine steady_pastSpace (fun t => ?_) s
  cases t with
  | nil => exact Fault.stands_atEnd .endInValue
  | cons c t =>
    dsimp only
    split
    · rename_i quote
      have narrow : Narrow c := quote ▸ rfl
      have name := Quoted.steady_read t
      cases read : Quoted.read t with
      | error fault =>
        rw [read] at name
        exact Fault.Stands.of_past (past_cons narrow t) name
      | ok given =>
        obtain ⟨key, left⟩ := given
        rw [read] at name
        dsimp only
        cases known : value key with
        | error mismatch =>
          exact Fault.Stands.of_past (past_cons narrow t)
            (Fault.stands_of_left name left.2 (.mismatch mismatch))
        | ok r =>
          exact steady_behind narrow
            (steady_onRest name (steady_readAssigned (steady key r known) left.1))
    · exact Fault.stands_upon .keyNotString c t

theorem steady_readMembers {member : σ → String → Except Mismatch (Reader Fault σ)}
    (steady : ∀ state key r, member state key = .ok r → ∀ s, Steady s (r s)) (first : Bool)
    (state : σ) (s : List Char) : Steady s (readMembers member first state s) := by
  have each (state : σ) : ∀ s, Steady s (readMember (member state) s) :=
    steady_readMember (steady state)
  fun_induction readMembers member first state s with
  | case1 first state s none => exact stands_of_first? none .endInObject
  | case2 first state s left found =>
    exact (past_of_first? found).trans (past_cons (c := '\x7d') rfl left.1)
  | case3 first state s c left found more next fault failed =>
    have part : Steady s next := steady_next (each state) found '\x7d' .expectedObjectCommaOrEnd
    rwa [failed] at part
  | case4 first state s c left found more next a rest given fault failed ih =>
    have part : Steady s next := steady_next (each state) found '\x7d' .expectedObjectCommaOrEnd
    rw [given] at part
    rw [failed] at ih
    exact Fault.Stands.of_past part ih
  | case5 first state s c left found more next a rest given final rest' others ih =>
    have part : Steady s next := steady_next (each state) found '\x7d' .expectedObjectCommaOrEnd
    rw [given] at part
    rw [others] at ih
    exact Past.trans part ih

end Layout

/-! ### Values -/

theorem steady_readScalar (s : List Char) : Steady s (readScalar s) := by
  have letters (word : List Char) (plain : word.all (·.utf8Size == 1) = true) :
      ∀ w ∈ word, Narrow w :=
    fun w listed => beq_iff_eq.mp (List.all_eq_true.mp plain w listed)
  unfold readScalar
  split
  · exact Fault.stands_atEnd .endInValue
  · exact Layout.steady_readLiteral (c := 'n') _ (letters _ rfl) rfl _
  · exact Layout.steady_readLiteral (c := 't') _ (letters _ rfl) rfl _
  · exact Layout.steady_readLiteral (c := 'f') _ (letters _ rfl) rfl _
  · exact steady_behind rfl (steady_map _ (Quoted.steady_read _))
  · rename_i c t _ _ _ _
    split
    · exact steady_map _ (steady_readNumber (c :: t))
    · exact Fault.stands_upon .expectedValue c t

theorem steady_readNested (keep : Keeping) (budget : Nat) (s : List Char) :
    Steady s (readNested keep budget s) := by
  induction budget generalizing s with
  | zero =>
    unfold readNested
    refine steady_pastSpace (fun t => ?_) s
    dsimp only
    split
    · exact Fault.stands_upon .tooDeep '[' _
    · exact Fault.stands_upon .tooDeep '\x7b' _
    · exact steady_readScalar t
  | succ budget ih =>
    unfold readNested
    refine steady_pastSpace (fun t => ?_) s
    dsimp only
    split
    · exact steady_behind rfl (steady_map _ (Layout.steady_readItems ih true _))
    · refine steady_behind rfl (steady_map _ (Layout.steady_readMembers ?_ true [] _))
      intro gathered key r same t
      cases same
      exact steady_map _ (ih t)
    · exact steady_readScalar t

/-- Where a text is at fault as a whole. -/
theorem stands_of_readWhole {r : Reader Fault α} (steady : ∀ s, Steady s (r s)) {text : String}
    (failed : readWhole r text = .error fault) : fault.Stands text.toList := by
  unfold readWhole at failed
  have front := steady text.toList
  cases read : r text.toList with
  | error fault' =>
    rw [read] at failed front
    cases failed
    exact front
  | ok given =>
    rw [read] at failed front
    dsimp only at failed
    have blanks := past_skipSpace given.2.1
    split at failed
    · cases failed
    · rename_i t some
      cases failed
      cases visible : skipSpace given.2.1 with
      | nil => exact absurd visible some
      | cons c t =>
        rw [visible] at blanks
        exact Fault.Stands.of_past (Past.trans front blanks) (Fault.stands_upon _ c t)

theorem Value.stands_of_ofText {text : String} (failed : ofText text = .error fault) :
    fault.Stands text.toList :=
  stands_of_readWhole (steady_readNested _ _) failed

end CanvasLint.Json
