import CanvasLint.Proofs.Json.Floats

/-! What a written value is read as. Strings, words and whole numbers are read as themselves, and
lists and objects as what their parts are read as; only a float can change, or be refused, and
whether it does is seen from its own text alone. -/
namespace CanvasLint.Json

open Text (Reader taken taken_eq_some)

variable {v w : Value} {vs : List Value} {ms gathered : List (String × Value)} {budget depth : Nat}
  {style : Style} {rest s t : List Char} {c : Char} {keep : Keeping} {n : Number} {x : Float}
  {key : String}

/-- The float comes back from its own text. -/
def ReadsBack (x : Float) : Prop :=
  Value.ofText (Value.float x).indented = .ok (.float x)

/-- The float that the text spells. -/
def floatOf? (text : String) : Option Float :=
  match Value.ofText text with
  | .ok (.number (.real x)) => some x
  | _ => none

theorem floatOf?_eq_some {text : String} :
    floatOf? text = some x ↔ Value.ofText text = .ok (.float x) := by
  rw [floatOf?]
  split
  · rename_i y spelled
    rw [spelled]
    simp [Value.float]
  · rename_i other
    exact ⟨nofun, fun same => absurd same (other x)⟩

instance (x : Float) : Decidable (ReadsBack x) :=
  decidable_of_iff (floatOf? (Value.float x).indented = some x) floatOf?_eq_some

example : ReadsBack 4.5 ∧ ¬ ReadsBack 9007199254740991 := by
  decide +kernel

/-- The members after some more have been put in their places. -/
def gather (gathered ms : List (String × Value)) : List (String × Value) :=
  ms.foldl (fun gathered m => Value.insertMember m.1 m.2 gathered) gathered

mutual

/-- What a value is read as once it is written, unless it is refused then. -/
def Value.reread? : Value → Option Value
  | .number (.real x) => (Value.ofText (Value.float x).indented).toOption
  | .array vs => (rereadItems? vs).map .array
  | .object ms => (rereadMembers? ms).map fun ms => .object (gather [] ms)
  | v => some v

def rereadItems? : List Value → Option (List Value)
  | [] => some []
  | v :: vs => v.reread?.bind fun w => (rereadItems? vs).map (w :: ·)

def rereadMembers? : List (String × Value) → Option (List (String × Value))
  | [] => some []
  | (key, v) :: ms => v.reread?.bind fun w => (rereadMembers? ms).map ((key, w) :: ·)

end

/-- What can be read while this many brackets may still be opened. -/
inductive Value.Fits : Nat → Value → Prop
  | null {budget : Nat} : Fits budget .null
  | bool {budget : Nat} (b : Bool) : Fits budget (.bool b)
  | number {budget : Nat} {n : Number} (readable : n.Readable) : Fits budget (.number n)
  | string {budget : Nat} (s : String) : Fits budget (.string s)
  | array {budget : Nat} {vs : List Value} (inside : ∀ v ∈ vs, Fits budget v) :
      Fits (budget + 1) (.array vs)
  | object {budget : Nat} {ms : List (String × Value)} (inside : ∀ m ∈ ms, Fits budget m.2) :
      Fits (budget + 1) (.object ms)

/-- Only blanks are put between the parts of a value, save for the colon. -/
structure Style.Sparse (style : Style) : Prop where
  lead : ∀ depth, ∀ c ∈ style.lead depth, isSpace c
  colon : ∃ blank, style.colon = ':' :: blank ∧ ∀ c ∈ blank, isSpace c

theorem Style.sparse_indented : Style.indented.Sparse where
  lead depth c member := by
    rcases List.mem_cons.mp member with rfl | member
    · rfl
    · rw [List.eq_of_mem_replicate member]
      rfl
  colon := ⟨[' '], rfl, List.forall_mem_singleton.mpr rfl⟩

/-! ### Values without parts -/

/-- How a value starts when it is written: neither with a blank nor with a closing bracket. -/
private def Starts (s : List Char) : Prop :=
  ∃ c t, s = c :: t ∧ isSpace c = false ∧ c ≠ ']' ∧ c ≠ '\x7d'

/-- A number starts with its sign or a digit, and so with no other character. -/
private theorem ne_of_first (first : c = '-' ∨ c.isDigit) {d : Char} (minus : d ≠ '-')
    (digit : d.isDigit = false) : c ≠ d := by
  rintro rfl
  rcases first with same | given
  · exact minus same
  · rw [digit] at given
    cases given

private theorem isSpace_of_first (first : c = '-' ∨ c.isDigit) : isSpace c = false := by
  simp only [isSpace, Bool.or_eq_false_iff, decide_eq_false_iff_not]
  refine ⟨⟨⟨?_, ?_⟩, ?_⟩, ?_⟩ <;> exact ne_of_first first (by decide) (by decide)

private theorem numeral_head {numeral : Numeral} (proper : numeral.Proper) :
    ∃ c t, numeral.text = c :: t ∧ (c = '-' ∨ c.isDigit) := by
  unfold Numeral.text
  cases numeral.negative with
  | true => exact ⟨'-', _, rfl, .inl rfl⟩
  | false =>
    rcases proper.whole with zero | ⟨c, cs, whole, -, digits⟩
    · rw [zero]
      exact ⟨'0', _, rfl, .inr rfl⟩
    · rw [whole]
      exact ⟨c, _, rfl, .inr (digits c List.mem_cons_self)⟩

private theorem starts_of_number (first : c = '-' ∨ c.isDigit) : Starts (c :: t) :=
  ⟨c, t, rfl, isSpace_of_first first, ne_of_first first (by decide) (by decide),
    ne_of_first first (by decide) (by decide)⟩

private theorem taken_readScalar_number {numeral : Numeral} (proper : numeral.Proper)
    (stop : Delimited rest) : taken (readScalar (numeral.text ++ rest)) =
      numeral.value.toOption.map fun m => (.number m, rest) := by
  obtain ⟨c, t, head, first⟩ := numeral_head proper
  have read := Numeral.taken_read_text proper stop .endInValue
  obtain ⟨fits, read⟩ := taken_eq_some.mp read
  have number : taken (readNumber (numeral.text ++ rest)) =
      numeral.value.toOption.map fun m => (m, rest) := by
    rw [readNumber, read]
    dsimp only
    cases numeral.value <;> rfl
  rw [head, List.cons_append] at number ⊢
  rw [readScalar, if_pos first, Reader.taken_map, number, Option.map_map]
  · rfl
  all_goals exact ne_of_first first (by decide) (by decide)

/-- Anything but a list and an object is read as a value without parts. -/
theorem taken_readNested_scalar (start : isSpace c = false) (list : c ≠ '[')
    (object : c ≠ '\x7b') : taken (readNested keep budget (c :: t)) = taken (readScalar (c :: t)) := by
  rw [readNested, taken_pastSpace, skipSpace_cons start]
  cases budget <;> simp [list, object]

theorem taken_readNested_list : taken (readNested keep (budget + 1) ('[' :: t)) =
    (taken (Layout.readItems (readNested keep budget) true t)).map (Prod.map .array id) := by
  rw [readNested, taken_pastSpace, skipSpace_cons (by decide)]
  exact (Reader.taken_behind _ _).trans (Reader.taken_map _ _ _)

theorem taken_readNested_object : taken (readNested keep (budget + 1) ('\x7b' :: t)) =
    (taken (Layout.readMembers (fun gathered key =>
      .ok (Reader.map (keep gathered key) (readNested keep budget))) true [] t)).map
        (Prod.map .object id) := by
  rw [readNested, taken_pastSpace, skipSpace_cons (by decide)]
  exact (Reader.taken_behind _ _).trans (Reader.taken_map _ _ _)

/-- Leading blanks do not matter to the reader of values. -/
theorem taken_readNested_skip (same : skipSpace s = skipSpace t) :
    taken (readNested keep budget s) = taken (readNested keep budget t) := by
  rw [readNested, taken_pastSpace, taken_pastSpace, same]

private theorem taken_readNested_numeral {numeral : Numeral} (proper : numeral.Proper)
    (stop : Delimited rest) : taken (readNested keep budget (numeral.text ++ rest)) =
      numeral.value.toOption.map fun m => (.number m, rest) := by
  obtain ⟨c, t, head, first⟩ := numeral_head proper
  have read := taken_readScalar_number proper stop
  rw [head, List.cons_append] at read ⊢
  rw [taken_readNested_scalar, read]
  · exact isSpace_of_first first
  · exact ne_of_first first (by decide) (by decide)
  · exact ne_of_first first (by decide) (by decide)

private theorem write_natural (n : Nat) :
    (Number.natural n).write = (Numeral.ofNat false n).text := by
  simp [Number.write, Numeral.text, Numeral.ofNat, Numeral.fractionText, Numeral.exponentText]

private theorem write_negative (n : Nat) :
    (Number.negative n).write = (Numeral.ofNat true n).text := by
  simp [Number.write, Numeral.text, Numeral.ofNat, Numeral.fractionText, Numeral.exponentText]

private theorem write_real (x : Float) : (Number.real x).write = ['n', 'u', 'l', 'l'] ∨
    ∃ numeral : Numeral, (numeral.Proper ∧ numeral.Marked) ∧
      (Number.real x).write = numeral.text := by
  rw [Number.write]
  cases spelled : CanvasLint.Number.json? x with
  | none => exact .inl rfl
  | some text => exact .inr (exists_numeral_of_json? spelled)

private theorem taken_readNested_null :
    taken (readNested keep budget (['n', 'u', 'l', 'l'] ++ rest)) = some (.null, rest) := by
  rw [List.cons_append, taken_readNested_scalar (by decide) (by decide) (by decide)]
  rfl

/-- The text of a float is read as a float or, if the float is not finite, as `null`. -/
private theorem exists_reread (x : Float) : ∃ read : Option Value,
    (∀ keep budget rest, Delimited rest →
      taken (readNested keep budget ((Number.real x).write ++ rest)) = read.map (·, rest)) ∧
      ∀ w, read = some w → w = .null ∨ ∃ y, w = .float y := by
  rcases write_real x with null | ⟨numeral, ⟨proper, marked⟩, text⟩
  · refine ⟨some .null, fun keep budget rest _ => ?_, fun w same => .inl (Option.some.inj same).symm⟩
    rw [null]
    exact taken_readNested_null
  · refine ⟨numeral.value.toOption.map .number, fun keep budget rest stop => ?_, fun w known => ?_⟩
    · rw [text, taken_readNested_numeral proper stop, Option.map_map]
      rfl
    · obtain ⟨m, value, rfl⟩ := Option.map_eq_some_iff.mp known
      cases stands : numeral.value with
      | error unread =>
        rw [stands] at value
        cases value
      | ok m' =>
        rw [stands] at value
        cases value
        obtain ⟨y, rfl⟩ := Numeral.value_real marked stands
        exact .inr ⟨y, rfl⟩

/-- Reading a whole text comes to reading what is at its front, if nothing is left behind it. -/
theorem readWhole_toOption {α : Type} {r : Reader Fault α} {text : String} {read : Option α}
    (known : taken (r text.toList) = read.map (·, [])) : (readWhole r text).toOption = read := by
  unfold readWhole
  cases done : r text.toList with
  | error fault =>
    rw [done, Text.taken_error] at known
    exact (Option.map_eq_none_iff.mp known.symm).symm
  | ok p =>
    rw [done] at known
    obtain ⟨a, same, left⟩ := Option.map_eq_some_iff.mp known.symm
    rw [Prod.mk.injEq] at left
    obtain ⟨rfl, nothing⟩ := left
    subst same
    dsimp only
    rw [← nothing]
    rfl

private theorem indented_toList (v : Value) : v.indented.toList = v.write .indented 0 :=
  String.toList_ofList

private theorem reread?_real (x : Float) : (∀ keep budget rest, Delimited rest →
    taken (readNested keep budget ((Number.real x).write ++ rest)) =
      (Value.float x).reread?.map (·, rest)) ∧
      ∀ w, (Value.float x).reread? = some w → w = .null ∨ ∃ y, w = .float y := by
  obtain ⟨read, context, kinds⟩ := exists_reread x
  have alone := context (fun members key value => Value.insertMember key value members)
    nestingLimit [] delimited_nil
  have same : (Value.float x).reread? = read := by
    rw [Value.float, Value.reread?]
    refine readWhole_toOption ?_
    rw [indented_toList, ← alone, List.append_nil]
    rfl
  rw [same]
  exact ⟨context, kinds⟩

/-- A float is read as a float, or as `null` if it is not finite. -/
theorem reread?_float (known : (Value.float x).reread? = some w) : w = .null ∨ ∃ y, w = .float y :=
  (reread?_real x).2 w known

/-! ### Values with parts -/

private theorem starts_writeString (text : String) : Starts (writeString text) :=
  ⟨'"', _, rfl, by decide⟩

private theorem starts_numeral {numeral : Numeral} (proper : numeral.Proper) :
    Starts numeral.text := by
  obtain ⟨c, t, head, first⟩ := numeral_head proper
  rw [head]
  exact starts_of_number first

private theorem starts_write (style : Style) (depth : Nat) (v : Value) :
    Starts (v.write style depth) := by
  have word {c : Char} {s : List Char} (plain : isSpace c = false ∧ c ≠ ']' ∧ c ≠ '\x7d') :
      Starts (c :: s) := ⟨c, s, rfl, plain⟩
  match v with
  | .null => exact word (by decide)
  | .bool true => exact word (by decide)
  | .bool false => exact word (by decide)
  | .string s => exact word (by decide)
  | .array [] => exact word (by decide)
  | .array (v :: vs) => exact word (by decide)
  | .object [] => exact word (by decide)
  | .object ((k, v) :: ms) => exact word (by decide)
  | .number (.natural n) =>
    rw [Value.write, write_natural]
    exact starts_numeral (Numeral.proper_ofNat false n)
  | .number (.negative n) =>
    rw [Value.write, write_negative]
    exact starts_numeral (Numeral.proper_ofNat true n)
  | .number (.real x) =>
    rw [Value.write]
    rcases write_real x with null | ⟨numeral, ⟨proper, -⟩, text⟩
    · rw [null]
      exact word (by decide)
    · rw [text]
      exact starts_numeral proper

/-- The first character of what has been written is the first one read behind a lead. -/
private theorem Starts.exists_opened (starts : Starts s) (sparse : style.Sparse) (depth : Nat)
    (t : List Char) : ∃ c u, s ++ t = c :: u ∧ isSpace c = false ∧
      skipSpace (style.lead depth ++ (s ++ t)) = c :: u ∧ c ≠ ']' ∧ c ≠ '\x7d' := by
  obtain ⟨c, u, rfl, visible, list, object⟩ := starts
  refine ⟨c, u ++ t, rfl, visible, ?_, list, object⟩
  rw [skipSpace_append (sparse.lead depth), List.cons_append, skipSpace_cons visible]

/-- Behind blanks a value is read as without them. -/
private theorem taken_readNested_lead (sparse : style.Sparse) (depth : Nat) (s : List Char) :
    taken (readNested keep budget (style.lead depth ++ s)) = taken (readNested keep budget s) :=
  taken_readNested_skip (skipSpace_append (sparse.lead depth) s)

private theorem isSpace_delimits (space : isSpace c) : Delimited (c :: s) := by
  simp only [isSpace, Bool.or_eq_true, decide_eq_true_eq] at space
  rcases space with ((rfl | rfl) | rfl) | rfl <;> exact delimited_cons (by decide) (by decide)

/-- Blanks and a closing bracket end a number. -/
private theorem delimited_lead (sparse : style.Sparse) (depth : Nat) {closing : Char}
    (digit : closing.isDigit = false) (other : closing ≠ '.' ∧ closing ≠ 'e' ∧ closing ≠ 'E') :
    Delimited (style.lead depth ++ closing :: rest) := by
  cases blank : style.lead depth with
  | nil => exact delimited_cons digit other
  | cons c cs =>
    refine isSpace_delimits (sparse.lead depth c ?_)
    rw [blank]
    exact List.mem_cons_self

private theorem delimited_writeItems (sparse : style.Sparse) (vs : List Value) :
    Delimited (writeItems style depth vs ++ (style.lead depth ++ ']' :: rest)) := by
  cases vs with
  | nil => exact delimited_lead sparse depth (by decide) (by decide)
  | cons v vs => exact delimited_cons (by decide) (by decide)

private theorem delimited_writeMembers (sparse : style.Sparse) (ms : List (String × Value)) :
    Delimited (writeMembers style depth ms ++ (style.lead depth ++ '\x7d' :: rest)) := by
  cases ms with
  | nil => exact delimited_lead sparse depth (by decide) (by decide)
  | cons m ms => exact delimited_cons (by decide) (by decide)

/-- Once its items are read back, a list is read back item by item. -/
private theorem taken_readItems_write (sparse : style.Sparse)
    (each : ∀ v ∈ vs, ∀ depth rest, Delimited rest →
      taken (readNested keep budget (v.write style depth ++ rest)) = v.reread?.map (·, rest))
    (depth : Nat) (rest : List Char) :
    taken (Layout.readItems (readNested keep budget) false
      (writeItems style depth vs ++ (style.lead depth ++ ']' :: rest))) =
      (rereadItems? vs).map (·, rest) := by
  induction vs with
  | nil =>
    refine taken_readItems_close ?_
    exact (skipSpace_append (sparse.lead depth) _).trans (skipSpace_cons (by decide) _)
  | cons v vs ih =>
    have ih := ih fun w member => each w (List.mem_cons_of_mem _ member)
    obtain ⟨c, t, head, -, opened, list, -⟩ := (starts_write style (depth + 1) v).exists_opened
      sparse (depth + 1) (writeItems style depth vs ++ (style.lead depth ++ ']' :: rest))
    rw [writeItems, List.cons_append, List.cons_append, List.append_assoc, List.append_assoc,
      taken_readItems_next (skipSpace_cons (by decide) _) opened list, ← head,
      each v List.mem_cons_self _ _ (delimited_writeItems sparse vs), rereadItems?]
    cases v.reread? with
    | none => rfl
    | some w =>
      simp only [Option.map_some, Option.bind_some, ih, Option.map_map]
      rfl

/-- The same from the opening bracket on. -/
private theorem taken_readNested_write_list (sparse : style.Sparse)
    (each : ∀ v ∈ vs, ∀ depth rest, Delimited rest →
      taken (readNested keep budget (v.write style depth ++ rest)) = v.reread?.map (·, rest))
    (depth : Nat) (rest : List Char) :
    taken (readNested keep (budget + 1) ((Value.array vs).write style depth ++ rest)) =
      (Value.array vs).reread?.map (·, rest) := by
  rw [Value.reread?, Option.map_map]
  match vs with
  | [] =>
    have close : skipSpace (']' :: rest) = ']' :: rest := skipSpace_cons (by decide) rest
    rw [Value.write, List.cons_append, List.singleton_append, taken_readNested_list,
      taken_readItems_close close]
    rfl
  | v :: vs =>
    have others := taken_readItems_write sparse
      (fun w member => each w (List.mem_cons_of_mem _ member)) depth rest
    obtain ⟨c, t, head, -, opened, list, -⟩ := (starts_write style (depth + 1) v).exists_opened
      sparse (depth + 1) (writeItems style depth vs ++ (style.lead depth ++ ']' :: rest))
    rw [Value.write, List.cons_append, taken_readNested_list, List.append_assoc, List.append_assoc,
      List.append_assoc, List.append_assoc, List.singleton_append,
      taken_readItems_first opened list, taken_readNested_lead sparse,
      each v List.mem_cons_self _ _ (delimited_writeItems sparse vs), rereadItems?]
    cases v.reread? with
    | none => rfl
    | some w =>
      simp only [Option.map_some, Option.bind_some, others, Option.map_map]
      rfl

/-- How a member of an object is read: its value goes to its place among the members so far. -/
def readPlaced (budget : Nat) (gathered : List (String × Value)) (key : String) :
    Except Mismatch (Reader Fault (List (String × Value))) :=
  .ok (Reader.map (fun v => Value.insertMember key v gathered) (readValue budget))

private theorem taken_readMember_write (gathered : List (String × Value)) (sparse : style.Sparse)
    (opened : skipSpace s = writeString key ++ (style.colon ++ (v.write style depth ++ rest)))
    (value : taken (readValue budget (v.write style depth ++ rest)) = v.reread?.map (·, rest)) :
    taken (Layout.readMember (readPlaced budget gathered) s) =
      v.reread?.map fun w => (Value.insertMember key w gathered, rest) := by
  obtain ⟨blank, colon, spaces⟩ := sparse.colon
  have quoted : skipSpace s = '"' :: (key.toList.flatMap writeChar ++ '"' :: (style.colon ++
      (v.write style depth ++ rest))) := by
    rw [opened, writeString, List.cons_append, List.append_assoc]
    rfl
  have behind : skipSpace (style.colon ++ (v.write style depth ++ rest)) =
      ':' :: (blank ++ (v.write style depth ++ rest)) := by
    rw [colon, List.cons_append, skipSpace_cons (by decide)]
  have skipped : taken (readValue budget (blank ++ (v.write style depth ++ rest))) =
      taken (readValue budget (v.write style depth ++ rest)) :=
    taken_readNested_skip (skipSpace_append spaces _)
  rw [taken_readMember quoted (taken_read_writeString key _) rfl behind, Reader.taken_map, skipped,
    value, Option.map_map]
  rfl

/-- Once their values are read back, the members of an object are read back one by one. -/
private theorem taken_readMembers_write (gathered : List (String × Value)) (sparse : style.Sparse)
    (each : ∀ m ∈ ms, ∀ depth rest, Delimited rest →
      taken (readValue budget (m.2.write style depth ++ rest)) = m.2.reread?.map (·, rest))
    (depth : Nat) (rest : List Char) :
    taken (Layout.readMembers (readPlaced budget) false gathered
      (writeMembers style depth ms ++ (style.lead depth ++ '\x7d' :: rest))) =
      (rereadMembers? ms).map fun ms => (gather gathered ms, rest) := by
  induction ms generalizing gathered with
  | nil =>
    refine taken_readMembers_close ?_
    exact (skipSpace_append (sparse.lead depth) _).trans (skipSpace_cons (by decide) _)
  | cons m ms ih =>
    obtain ⟨key, v⟩ := m
    have ih (gathered : List (String × Value)) :=
      ih gathered fun m member => each m (List.mem_cons_of_mem _ member)
    obtain ⟨c, t, head, visible, opened, -, object⟩ := (starts_writeString key).exists_opened sparse
      (depth + 1) (style.colon ++ (v.write style (depth + 1) ++
        (writeMembers style depth ms ++ (style.lead depth ++ '\x7d' :: rest))))
    rw [writeMembers, List.cons_append, List.cons_append, List.append_assoc, List.append_assoc,
      List.append_assoc, List.append_assoc,
      taken_readMembers_next (skipSpace_cons (by decide) _) opened object,
      taken_readMember_write gathered sparse ((skipSpace_cons visible t).trans head.symm)
        (each (key, v) List.mem_cons_self _ _ (delimited_writeMembers sparse ms)), rereadMembers?]
    cases v.reread? with
    | none => rfl
    | some w =>
      simp only [Option.map_some, Option.bind_some, ih, Option.map_map]
      rfl

/-- The same from the opening brace on. -/
private theorem taken_readValue_write_object (sparse : style.Sparse)
    (each : ∀ m ∈ ms, ∀ depth rest, Delimited rest →
      taken (readValue budget (m.2.write style depth ++ rest)) = m.2.reread?.map (·, rest))
    (depth : Nat) (rest : List Char) :
    taken (readValue (budget + 1) ((Value.object ms).write style depth ++ rest)) =
      (Value.object ms).reread?.map (·, rest) := by
  rw [Value.reread?, Option.map_map]
  have opened (s : List Char) : taken (readValue (budget + 1) ('\x7b' :: s)) =
      (taken (Layout.readMembers (readPlaced budget) true [] s)).map (Prod.map .object id) :=
    taken_readNested_object
  match ms with
  | [] =>
    have close : skipSpace ('\x7d' :: rest) = '\x7d' :: rest := skipSpace_cons (by decide) rest
    rw [Value.write, List.cons_append, List.singleton_append, opened,
      taken_readMembers_close close]
    rfl
  | (key, v) :: ms =>
    have others (gathered : List (String × Value)) := taken_readMembers_write gathered sparse
      (fun m member => each m (List.mem_cons_of_mem _ member)) depth rest
    obtain ⟨c, t, head, -, first, -, object⟩ := (starts_writeString key).exists_opened sparse
      (depth + 1) (style.colon ++ (v.write style (depth + 1) ++
        (writeMembers style depth ms ++ (style.lead depth ++ '\x7d' :: rest))))
    rw [Value.write, List.cons_append, opened, List.append_assoc, List.append_assoc,
      List.append_assoc, List.append_assoc, List.append_assoc, List.append_assoc,
      List.singleton_append, taken_readMembers_first first object,
      taken_readMember_write [] sparse (first.trans head.symm)
        (each (key, v) List.mem_cons_self _ _ (delimited_writeMembers sparse ms)), rereadMembers?]
    cases v.reread? with
    | none => rfl
    | some w =>
      simp only [Option.map_some, Option.bind_some, others, Option.map_map]
      rfl

/-- A written value is read as what its parts are read as, whatever follows that cannot belong to
a number. -/
theorem taken_readValue_write (sparse : style.Sparse) (fits : v.Fits budget) (depth : Nat)
    (rest : List Char) (stop : Delimited rest) :
    taken (readValue budget (v.write style depth ++ rest)) = v.reread?.map (·, rest) := by
  unfold readValue
  induction fits generalizing depth rest with
  | null => exact taken_readNested_null
  | bool b =>
    cases b with
    | true => exact (taken_readNested_scalar (by decide) (by decide) (by decide)).trans rfl
    | false => exact (taken_readNested_scalar (by decide) (by decide) (by decide)).trans rfl
  | @number _ n readable =>
    match n with
    | .natural n =>
      rw [Value.write, write_natural, taken_readNested_numeral (Numeral.proper_ofNat false n) stop,
        Numeral.value_natural readable]
      rfl
    | .negative n =>
      rw [Value.write, write_negative, taken_readNested_numeral (Numeral.proper_ofNat true n) stop,
        Numeral.value_negative readable.1 readable.2]
      rfl
    | .real x => exact (reread?_real x).1 _ _ rest stop
  | string s =>
    rw [Value.write, writeString, List.cons_append, List.append_assoc,
      taken_readNested_scalar (by decide) (by decide) (by decide)]
    exact (Reader.taken_behind _ _).trans ((Reader.taken_map _ _ _).trans
      (congrArg (Option.map (Prod.map Value.string id)) (taken_read_writeString s rest)))
  | array inside ih => exact taken_readNested_write_list sparse ih depth rest
  | object inside ih => exact taken_readValue_write_object sparse ih depth rest

end CanvasLint.Json
