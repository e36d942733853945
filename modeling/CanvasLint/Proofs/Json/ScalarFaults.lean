import CanvasLint.Proofs.Json.FaultPlaces

/-! Faults of numbers and strings. A number is of characters of one byte; that no float reaches it may
be seen among the digits of its exponent already. Within a string the text may end behind any
character, and an escape takes four bytes of whatever stands there. -/
namespace CanvasLint.Json

open Text (Reader Rest Tail bytes Narrow Past bytes_append bytes_of_narrow exists_char_at past_append
  past_cons narrow_of_isDigit narrow_of_lt)

variable {α : Type} {s t rest p : List Char} {c d : Char} {k : Nat} {fault : Fault}

/-! ### Numbers -/

/-- The text up to the rest is of characters of one byte, and the digits of the exponent are among
them. -/
def Spells (exponent : Option (Bool × List Char)) (s rest : List Char) : Prop :=
  ∃ p, s = p ++ rest ∧ (∀ c ∈ p, Narrow c) ∧ ∀ e ∈ exponent, e.2.length ≤ p.length

variable {exponent : Option (Bool × List Char)}

theorem Spells.past (spells : Spells exponent s rest) : Past s rest := by
  obtain ⟨p, rfl, narrow, -⟩ := spells
  exact past_append narrow rest

theorem Spells.append (spells : Spells exponent s rest) (narrow : ∀ c ∈ p, Narrow c) :
    Spells exponent (p ++ s) rest := by
  obtain ⟨q, rfl, narrow', digits⟩ := spells
  refine ⟨p ++ q, (List.append_assoc p q rest).symm, fun c listed => ?_, fun e given => ?_⟩
  · exact (List.mem_append.mp listed).elim (narrow c) (narrow' c)
  · rw [List.length_append]
    exact Nat.le_add_left_of_le (digits e given)

theorem Spells.cons (spells : Spells exponent s rest) (narrow : Narrow c) :
    Spells exponent (c :: s) rest :=
  spells.append (p := [c]) (List.forall_mem_singleton.mpr narrow)

private theorem narrow_takeWhile_digits (s : List Char) :
    ∀ c ∈ s.takeWhile Char.isDigit, Narrow c :=
  fun _ listed => narrow_of_isDigit (List.mem_takeWhile_imp listed)

namespace Numeral

theorem leads_readPower (ended : Cause) (negative : Bool) (s : List Char) :
    Leads (fun e rest => Spells (some e) s rest) s (readPower ended negative s) := by
  cases s with
  | nil => exact Fault.stands_atEnd ended
  | cons c t =>
    rw [readPower]
    split
    · rename_i digit
      refine ⟨c :: t.takeWhile Char.isDigit, ?_, fun d listed => ?_, fun e same => ?_⟩
      · exact congrArg (c :: ·) (List.takeWhile_append_dropWhile).symm
      · rcases List.mem_cons.mp listed with rfl | listed
        · exact narrow_of_isDigit digit
        · exact narrow_takeWhile_digits t d listed
      · cases same
        exact Nat.le_refl _
    · exact Fault.stands_upon .invalidNumber c t

theorem leads_readExponent (ended : Cause) (s : List Char) :
    Leads (fun e rest => Spells (some e) s rest) s (readExponent ended s) := by
  have signed (sign : Char) (narrow : Narrow sign) (negative : Bool) (t : List Char) :
      Leads (fun e rest => Spells (some e) (sign :: t) rest) (sign :: t)
        (Reader.behind sign (readPower ended negative t)) := by
    have power := leads_readPower ended negative t
    cases read : readPower ended negative t with
    | ok p => rw [read] at power; exact Spells.cons power narrow
    | error fault => rw [read] at power; exact Fault.Stands.of_past (past_cons narrow t) power
  unfold readExponent
  split
  · exact signed '+' rfl false _
  · exact signed '-' rfl true _
  · exact leads_readPower ended false s

theorem leads_readExponent? (ended : Cause) (s : List Char) :
    Leads (fun exponent rest => Spells exponent s rest) s (readExponent? ended s) := by
  have absent (s : List Char) : Spells none s s := ⟨[], rfl, nofun, nofun⟩
  unfold readExponent?
  split
  · rename_i c t
    split
    · rename_i letter
      have narrow : Narrow c := by rcases letter with rfl | rfl <;> rfl
      have power := leads_readExponent ended t
      cases read : readExponent ended t with
      | ok p => rw [read] at power; exact Spells.cons power narrow
      | error fault => rw [read] at power; exact Fault.Stands.of_past (past_cons narrow t) power
    · exact absent _
  · exact absent _

theorem leads_readTail (ended : Cause) (negative : Bool) (whole s : List Char) :
    Leads (fun n rest => Spells n.exponent s rest) s (readTail ended negative whole s) := by
  unfold readTail
  split
  · rename_i t
    have point : Narrow '.' := rfl
    dsimp only
    split
    · cases t with
      | nil => exact Fault.Stands.of_past (past_cons point []) (Fault.stands_atEnd ended)
      | cons c t =>
        exact Fault.Stands.of_past (past_cons point _) (Fault.stands_upon .invalidNumber c t)
    · have power := leads_readExponent? ended (Tail.dropWhile Char.isDigit t).1
      have digits : ∀ c ∈ '.' :: t.takeWhile Char.isDigit, Narrow c :=
        List.forall_mem_cons.mpr ⟨point, narrow_takeWhile_digits t⟩
      have split : '.' :: t.takeWhile Char.isDigit ++ (Tail.dropWhile Char.isDigit t).1 = '.' :: t :=
        congrArg ('.' :: ·) List.takeWhile_append_dropWhile
      cases read : readExponent? ended (Tail.dropWhile Char.isDigit t).1 with
      | ok p =>
        rw [read] at power
        have spelled := Spells.append power digits
        rwa [split] at spelled
      | error fault =>
        rw [read] at power
        have placed := Fault.Stands.of_past (past_append digits _) power
        rwa [split] at placed
  · have power := leads_readExponent? ended s
    cases read : readExponent? ended s with
    | ok p => rw [read] at power; exact power
    | error fault => rw [read] at power; exact power

theorem leads_readUnsigned (ended : Cause) (negative : Bool) (s : List Char) :
    Leads (fun n rest => Spells n.exponent s rest) s (readUnsigned ended negative s) := by
  cases s with
  | nil => exact Fault.stands_atEnd ended
  | cons c t =>
    rw [readUnsigned]
    split
    · rename_i zero
      have narrow : Narrow c := by rw [zero]; rfl
      split
      · rename_i more
        cases t with
        | nil => cases more
        | cons d t =>
          exact Fault.Stands.of_past (past_cons narrow _) (Fault.stands_upon .invalidNumber d t)
      · have tail := leads_readTail ended negative ['0'] t
        cases read : readTail ended negative ['0'] t with
        | ok p => rw [read] at tail; exact Spells.cons tail narrow
        | error fault => rw [read] at tail; exact Fault.Stands.of_past (past_cons narrow t) tail
    · split
      · rename_i digit
        have digits : ∀ d ∈ c :: t.takeWhile Char.isDigit, Narrow d :=
          List.forall_mem_cons.mpr ⟨narrow_of_isDigit digit, narrow_takeWhile_digits t⟩
        have split : c :: t.takeWhile Char.isDigit ++ (Tail.dropWhile Char.isDigit t).1 = c :: t :=
          congrArg (c :: ·) List.takeWhile_append_dropWhile
        have tail := leads_readTail ended negative (c :: t.takeWhile Char.isDigit)
          (Tail.dropWhile Char.isDigit t).1
        dsimp only
        cases read : readTail ended negative (c :: t.takeWhile Char.isDigit)
            (Tail.dropWhile Char.isDigit t).1 with
        | ok p =>
          rw [read] at tail
          have spelled := Spells.append tail digits
          rwa [split] at spelled
        | error fault =>
          rw [read] at tail
          have placed := Fault.Stands.of_past (past_append digits _) tail
          rwa [split] at placed
      · exact Fault.stands_upon .invalidNumber c t

theorem leads_read (ended : Cause) (s : List Char) :
    Leads (fun n rest => Spells n.exponent s rest) s (Numeral.read ended s) := by
  unfold Numeral.read
  split
  · rename_i t
    have minus : Narrow '-' := rfl
    have unsigned := leads_readUnsigned ended true t
    cases read : readUnsigned ended true t with
    | ok p => rw [read] at unsigned; exact Spells.cons unsigned minus
    | error fault => rw [read] at unsigned; exact Fault.Stands.of_past (past_cons minus t) unsigned
  · exact leads_readUnsigned ended false _

private theorem length_accumulate_le (limit n : Nat) (ds : List Char) :
    (accumulate limit n ds).2.length ≤ ds.length := by
  induction ds generalizing n with
  | nil => exact Nat.le_refl 0
  | cons d ds ih =>
    rw [accumulate]
    split
    · exact Nat.le_succ_of_le (ih _)
    · exact Nat.le_refl _

private theorem eq_of_error {ε : Type} {a : α} {e e' : ε} {refused : Prop} [Decidable refused]
    (failed : (if refused then .error e else .ok a : Except ε α) = .error e') : e = e' := by
  by_cases refuses : refused
  · rw [if_pos refuses] at failed
    exact Except.error.inj failed
  · rw [if_neg refuses] at failed
    cases failed

/-- That no float reaches a number is seen at its end or among the digits of its exponent. -/
theorem unread_of_value {numeral : Numeral} {unread : Nat} (failed : numeral.value = .error unread) :
    unread = 0 ∨ ∃ e ∈ numeral.exponent, unread < e.2.length := by
  unfold value at failed
  dsimp only at failed
  split at failed
  · split at failed
    · cases failed
    · split at failed <;> cases failed
  · split at failed
    · split at failed
      · cases failed
      · cases failed
        exact .inl rfl
    · rename_i down digits given
      split at failed
      · split at failed
        · cases failed
        · cases failed
          exact .inl rfl
      · rename_i e c rest reached
        refine .inr ⟨_, given, ?_⟩
        have fits := length_accumulate_le largestExponent 0 digits
        rw [reached] at fits
        exact eq_of_error failed ▸ fits

end Numeral

/-- Stopping at one of several characters of one byte, so many before the rest. -/
theorem Fault.stands_among (narrow : ∀ c ∈ p, Narrow c) (inside : k < p.length) (rest : List Char)
    (cause : Cause) : Stands (p ++ rest) ⟨cause, bytes rest + k⟩ := by
  induction p with
  | nil => exact absurd inside (Nat.not_lt_zero k)
  | cons c p ih =>
    obtain ⟨first, others⟩ := List.forall_mem_cons.mp narrow
    by_cases later : k < p.length
    · exact (ih others later).of_past (past_cons first _)
    · have last : k = p.length := Nat.le_antisymm (Nat.le_of_lt_succ inside) (Nat.not_lt.mp later)
      have one : c.utf8Size = 1 := first
      refine .onto [] (p ++ rest) c rfl ?_
      rw [bytes, one, bytes_append, bytes_of_narrow others, last, Nat.add_sub_cancel_left,
        Nat.add_comm]

theorem steady_readNumber (s : List Char) : Steady s (readNumber s) := by
  unfold readNumber
  have numeral := Numeral.leads_read .endInValue s
  cases read : Numeral.read .endInValue s with
  | error fault =>
    rw [read] at numeral
    exact numeral
  | ok given =>
    rw [read] at numeral
    dsimp only
    cases value : given.1.value with
    | ok n => exact Spells.past numeral
    | error unread =>
      obtain ⟨p, split, narrow, digits⟩ := numeral
      have gone := given.2.2
      have some : 0 < p.length := by
        have length := congrArg List.length split
        rw [List.length_append] at length
        omega
      have inside : unread < p.length := by
        rcases Numeral.unread_of_value value with rfl | ⟨e, exponent, less⟩
        · exact some
        · exact Nat.lt_of_lt_of_le less (digits e exponent)
      have placed := Fault.stands_among narrow inside given.2.1 .numberOutOfRange
      rwa [← split] at placed

/-! ### Strings -/

namespace Quoted

private theorem narrow_of_le (le : c ≤ d) (small : d.toNat < 128) : Narrow c :=
  narrow_of_lt (Nat.lt_of_le_of_lt (UInt32.le_iff_toNat_le.mp le) small)

private theorem narrow_of_hexValue? {v : Nat} (digit : Text.hexValue? c = some v) : Narrow c := by
  unfold Text.hexValue? at digit
  split at digit
  · rename_i range
    exact narrow_of_le range.2 (by decide)
  · split at digit
    · rename_i range
      exact narrow_of_le range.2 (by decide)
    · split at digit
      · rename_i range
        exact narrow_of_le range.2 (by decide)
      · cases digit

/-- Four hexadecimal digits take four bytes. -/
private theorem narrow_of_codeOf? {a b c d : Char} {code : Nat} (known : codeOf? a b c d = some code) :
    ∀ e ∈ [a, b, c, d], Narrow e := by
  simp only [codeOf?, Option.bind_eq_bind, Option.bind_eq_some_iff] at known
  obtain ⟨_, first, _, second, _, third, _, fourth, -⟩ := known
  simp only [List.forall_mem_cons]
  exact ⟨narrow_of_hexValue? first, narrow_of_hexValue? second, narrow_of_hexValue? third,
    narrow_of_hexValue? fourth, List.forall_mem_nil _⟩

private theorem past_of_readHex {code : Nat} {left : Rest s} (read : readHex s = .ok (code, left)) :
    Past s left.1 := by
  unfold readHex at read
  split at read
  · rename_i a b c d t
    split at read
    · rename_i known
      cases read
      exact past_append (p := [a, b, c, d]) (narrow_of_codeOf? known) t
    · cases read
  · cases read

/-- Where a text ends within a string. -/
private theorem stands_of_last (front : List Char) (c : Char) :
    (Fault.atEnd .endInString).Stands (front ++ [c]) := by
  by_cases narrow : c.utf8Size = 1
  · refine .onto front [] c rfl ?_
    rw [bytes, narrow]
    rfl
  · have wide : 1 < c.utf8Size := Nat.lt_of_le_of_ne c.utf8Size_pos (Ne.symm narrow)
    exact .within (.atEnd front c rfl wide)

/-- The four bytes of an escape are taken, whatever they are, or the text ends before them. -/
private theorem stands_of_readHex (failed : readHex s = .error fault) :
    fault.Stands ('\\' :: 'u' :: s) := by
  have ended (few : bytes s < 4) : (Fault.atEnd .endInString).Stands ('\\' :: 'u' :: s) := by
    rcases s.eq_nil_or_concat with rfl | ⟨front, c, rfl⟩
    · exact .onto ['\\'] [] 'u' rfl rfl
    · have last := stands_of_last ('\\' :: 'u' :: front) c
      rwa [List.concat_eq_append]
  have taken (enough : 4 ≤ bytes s) :
      Fault.Stands ('\\' :: 'u' :: s) ⟨.invalidEscape, bytes s - 4⟩ := by
    obtain ⟨code, c, rest, rfl, lower, upper⟩ := exists_char_at (k := 3) enough
    rcases Nat.lt_or_eq_of_le lower with cut | whole
    · exact .within (.inEscape [] code rest c rfl cut upper)
    · refine .onto ('\\' :: 'u' :: code) rest c rfl ?_
      change bytes (code ++ c :: rest) - 4 = _
      rw [bytes_append, whole]
      omega
  unfold readHex at failed
  split at failed
  · rename_i a b c d t
    split at failed
    · cases failed
    · cases failed
      have sizes := And.intro (And.intro a.utf8Size_pos b.utf8Size_pos)
        (And.intro c.utf8Size_pos d.utf8Size_pos)
      exact taken (by simp only [bytes]; omega)
  · split at failed
    · rename_i few
      cases failed
      exact ended few
    · rename_i enough
      cases failed
      exact taken (Nat.not_lt.mp enough)

/-- Stopping behind a code that is no character is stopping upon its last digit. -/
private theorem stands_of_code {code : Nat} {left : Rest s} (read : readHex s = .ok (code, left))
    (cause : Cause) : (Fault.before cause left.1).Stands s :=
  Fault.stands_of_left (past_of_readHex read) left.2 cause

private theorem past_escape (s : List Char) : Past ('\\' :: 'u' :: s) s :=
  past_append (p := ['\\', 'u']) (by simp only [List.forall_mem_cons]; exact ⟨rfl, rfl, nofun⟩) s

theorem steady_readTrailing (leading : Nat) (s : List Char) :
    Steady s (readTrailing leading s) := by
  unfold readTrailing
  split
  · rename_i t
    split
    · rename_i fault failed
      exact stands_of_readHex failed
    · rename_i code left read
      split
      · have past := (past_escape t).trans (past_of_readHex read)
        rwa [← Rest.past_val ['\\', 'u'] left] at past
      · exact (stands_of_code read _).of_past (past_escape t)
  · exact Fault.stands_atEnd .endInString
  · exact .onto [] [] '\\' rfl rfl
  · rename_i t other ended
    cases t with
    | nil => exact absurd rfl ended
    | cons c t => exact .onto ['\\'] t c rfl rfl
  · rename_i empty alone escaped
    cases s with
    | nil => exact absurd rfl empty
    | cons c t => exact Fault.stands_upon .unfinishedSurrogate c t

/-- An escape with a code: what it leaves, and where its faults stand. -/
private theorem leads_readCode (s : List Char) : (∀ c left, readCode s = .ok (c, left) →
    Past s left.1) ∧ ∀ fault, readCode s = .error fault → fault.Stands ('\\' :: 'u' :: s) := by
  unfold readCode
  cases read : readHex s with
  | error fault =>
    exact ⟨nofun, fun fault' same => by cases same; exact stands_of_readHex read⟩
  | ok given =>
    obtain ⟨code, left⟩ := given
    have past := past_of_readHex read
    dsimp only
    split
    · refine ⟨nofun, fun fault same => ?_⟩
      cases same
      exact (stands_of_code read _).of_past (past_escape s)
    · split
      · have steady := steady_onRest past (steady_readTrailing code left.1)
        refine ⟨fun c left' same => ?_, fun fault same => ?_⟩
        · rw [same] at steady
          exact steady
        · rw [same] at steady
          exact Fault.Stands.of_past (past_escape s) steady
      · refine ⟨fun c left' same => ?_, nofun⟩
        cases same
        exact past

private theorem narrow_of_shortEscapes {plain : Char}
    (short : shortEscapes.lookup c = some plain) : Narrow c := by
  have each : ∀ pair ∈ shortEscapes, pair.1.utf8Size = 1 := by decide
  obtain ⟨before, after, split, -⟩ := List.lookup_eq_some_iff.mp short
  refine each (c, plain) ?_
  rw [split]
  exact List.mem_append_right _ List.mem_cons_self

/-- The backslash of an escape has been taken already when the escape is read. -/
private theorem leads_readEscape (s : List Char) : (∀ c left, readEscape s = .ok (c, left) →
    Past s left.1) ∧ ∀ fault, readEscape s = .error fault → fault.Stands ('\\' :: s) := by
  cases s with
  | nil =>
    exact ⟨fun d left same => (by cases same), fun fault same => by
      cases same
      exact .onto [] [] '\\' rfl rfl⟩
  | cons c t =>
    rw [readEscape]
    cases short : shortEscapes.lookup c with
    | some plain =>
      refine ⟨fun d left same => ?_, fun fault same => (by cases same)⟩
      cases same
      exact past_cons (narrow_of_shortEscapes short) t
    | none =>
      dsimp only
      split
      · rename_i letter
        subst letter
        obtain ⟨past, stands⟩ := leads_readCode t
        cases read : readCode t with
        | ok given =>
          refine ⟨fun d left same => ?_, fun fault same => (by cases same)⟩
          cases same
          exact (past_cons (c := 'u') rfl t).trans (past _ _ read)
        | error fault =>
          refine ⟨fun d left same => (by cases same), fun fault' same => ?_⟩
          cases same
          exact stands _ read
      · exact ⟨fun d left same => (by cases same), fun fault same => by
          cases same
          exact .onto ['\\'] t c rfl rfl⟩

theorem steady_readChars (s : List Char) : Steady s (readChars s) := by
  have escaped {t : List Char} {c : Char} {left : Rest t} (escape : readEscape t = .ok (c, left)) :
      Past ('\\' :: t) left.1 :=
    (past_cons (c := '\\') rfl t).trans ((leads_readEscape t).1 c left escape)
  fun_induction readChars s with
  | case1 => exact Fault.stands_atEnd .endInString
  | case2 t => exact past_cons (c := '"') rfl t
  | case3 t fault escape => exact (leads_readEscape t).2 fault escape
  | case4 t c left escape fault read ih =>
    rw [read] at ih
    exact Fault.Stands.of_past (escaped escape) ih
  | case5 t c left escape cs left' read ih =>
    rw [read] at ih
    exact (escaped escape).trans ih
  | case6 c t quote slash control => exact Fault.stands_upon .controlCharacter c t
  | case7 c t quote slash plain fault read ih =>
    rw [read] at ih
    cases t with
    | cons d t => exact Fault.Stands.cons ih (List.cons_ne_nil d t) c
    | nil =>
      -- the text ends behind this character, however many bytes it takes
      rw [readChars] at read
      cases read
      exact stands_of_last [] c
  | case8 c t quote slash plain cs left read ih =>
    rw [read] at ih
    exact Past.behind ih left.2 c

theorem steady_read (s : List Char) : Steady s (Quoted.read s) :=
  steady_map String.ofList (steady_readChars s)

end Quoted

end CanvasLint.Json
