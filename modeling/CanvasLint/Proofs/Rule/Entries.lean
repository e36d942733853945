import CanvasLint.Proofs.Rule.RuleSetText

/-! What becomes of the entries of a rule set. An entry gives a rule, or it is complained about for
the first of the reasons there are, and never both. The reasons are stated here in terms of the
members of the entry. Of several entries the first that gives no rule decides. -/
namespace CanvasLint

open Json (Value)
open Outcome (bind_eq_ok)

variable {e : Value} {es : List Value} {m : String × Value} {ms done : List (String × Value)}
  {r : Rule} {rules : List Rule} {index : Nat} {key text : String}

theorem Text.blank_eq_false :
    Text.blank text = false ↔ ∃ c ∈ text.toList, Text.isBlank c = false := by
  simp [Text.blank, List.all_eq_false]

@[simp]
theorem Severity.ofName?_name (s : Severity) : Severity.ofName? s.name = some s := by
  cases s <;> rfl

theorem Severity.ofName?_eq_none (unknown : ∀ s, Severity.name s ≠ text) :
    Severity.ofName? text = none := by
  unfold Severity.ofName?
  split
  · exact absurd rfl (unknown .warning)
  · exact absurd rfl (unknown .error)
  · rfl

/-- All elements of a list are of some kind, or there is a first that is not. -/
theorem exists_first {α : Type} (p : α → Prop) (as : List α) :
    (∀ a ∈ as, p a) ∨ ∃ before a after, as = before ++ a :: after ∧ (∀ b ∈ before, p b) ∧ ¬ p a := by
  induction as with
  | nil => exact .inl (by simp)
  | cons a as ih =>
    by_cases first : p a
    · rcases ih with all | ⟨before, b, after, rfl, earlier, bad⟩
      · exact .inl (by simpa [first] using all)
      · exact .inr ⟨a :: before, b, after, rfl, by simpa [first] using earlier, bad⟩
    · exact .inr ⟨[], a, as, rfl, by simp, first⟩

namespace Rule

/-! ### What an entry says -/

/-- The keys of the members of an entry that can only be texts. -/
def textKeys : List String := ["id", "description", "type", "severity"]

/-- A member of an entry that can only be a text, or nothing, and is neither. -/
structure Mistyped (m : String × Value) : Prop where
  known : m.1 ∈ textKeys
  something : m.2 ≠ .null
  noText : ∀ text, m.2 ≠ .string text

/-- Under the key there is a text that is not blank. -/
def Says (ms : List (String × Value)) (key text : String) : Prop :=
  ms.lookup key = some (.string text) ∧ ∃ c ∈ text.toList, Text.isBlank c = false

/-- The severity that an entry asks for, if any. -/
inductive Grades (ms : List (String × Value)) : Option Severity → Prop
  | absent (nowhere : ms.lookup "severity" = none) : Grades ms none
  | null (nothing : ms.lookup "severity" = some .null) : Grades ms none
  | named (s : Severity) (name : ms.lookup "severity" = some (.string s.name)) : Grades ms (some s)

/-- The rule is the one that the entry is about. -/
structure Gives (ms : List (String × Value)) (r : Rule) : Prop where
  id : Says ms "id" r.id
  description : Says ms "description" r.description
  condition : ∃ type inside, Says ms "type" type ∧
    ms.lookup "condition" = some (.object inside) ∧ r.condition = .read type (.object inside)
  severity : Grades ms r.severity

/-- The entry has all that a rule needs. Nothing is asked of its type but to be a text, and nothing
of its condition but to be an object. -/
structure Acceptable (ms : List (String × Value)) : Prop where
  id : ∃ text, Says ms "id" text
  description : ∃ text, Says ms "description" text
  type : ∃ text, Says ms "type" text
  condition : ∃ inside, ms.lookup "condition" = some (.object inside)
  severity : ms.lookup "severity" ∈
    [none, some .null, some (.string "error"), some (.string "warning")]

/-- Why an entry gives no rule, with its id as far as that is known. Each reason counts only where
none of those before it does. -/
inductive Blamed : Value → Option String → EntryError → Prop
  | notObject {e : Value} (other : ∀ ms, e ≠ .object ms) : Blamed e none (.notObject e.kind)
  | malformed {before after : List (String × Value)} {m : String × Value}
      (earlier : ∀ m' ∈ before, ¬ Mistyped m') (mistyped : Mistyped m) :
      Blamed (.object (before ++ m :: after)) none (.malformed (.wrongType m.2.found .text))
  | id {ms : List (String × Value)} (typed : ∀ m ∈ ms, ¬ Mistyped m)
      (silent : ∀ text, ¬ Says ms "id" text) : Blamed (.object ms) none (.missingField "id")
  | description {ms : List (String × Value)} {id : String} (typed : ∀ m ∈ ms, ¬ Mistyped m)
      (named : Says ms "id" id) (silent : ∀ text, ¬ Says ms "description" text) :
      Blamed (.object ms) (some id) (.missingField "description")
  | type {ms : List (String × Value)} {id description : String} (typed : ∀ m ∈ ms, ¬ Mistyped m)
      (named : Says ms "id" id) (described : Says ms "description" description)
      (silent : ∀ text, ¬ Says ms "type" text) : Blamed (.object ms) (some id) (.missingField "type")
  | condition {ms : List (String × Value)} {id description type : String}
      (typed : ∀ m ∈ ms, ¬ Mistyped m) (named : Says ms "id" id)
      (described : Says ms "description" description) (sorted : Says ms "type" type)
      (other : ∀ inside, ms.lookup "condition" ≠ some (.object inside)) :
      Blamed (.object ms) (some id) .badCondition
  | severity {ms inside : List (String × Value)} {id description type name : String}
      (typed : ∀ m ∈ ms, ¬ Mistyped m) (named : Says ms "id" id)
      (described : Says ms "description" description) (sorted : Says ms "type" type)
      (given : ms.lookup "condition" = some (.object inside))
      (graded : ms.lookup "severity" = some (.string name)) (unknown : ∀ s, Severity.name s ≠ name) :
      Blamed (.object ms) (some id) (.unknownSeverity name)

/-! ### The draft of an entry -/

/-- The text of a member, unless it is no text. -/
def textOf? : Value → Option String
  | .string text => some text
  | _ => none

/-- The value of a member, unless it stands for nothing. -/
def contentOf? : Value → Option Value
  | .null => none
  | v => some v

/-- The draft that these members make. -/
def draftOf (ms : List (String × Value)) : Draft where
  id := (ms.lookup "id").map textOf?
  description := (ms.lookup "description").map textOf?
  type := (ms.lookup "type").map textOf?
  condition := (ms.lookup "condition").map contentOf?
  severity := (ms.lookup "severity").map textOf?

private theorem orNull_asText_of_fine (fine : ¬ Mistyped m) (known : m.1 ∈ textKeys) :
    Value.orNull Value.asText m.2 = .ok (textOf? m.2) := by
  by_cases nothing : m.2 = .null
  · rw [nothing]
    rfl
  by_cases text : ∃ text, m.2 = .string text
  · obtain ⟨text, given⟩ := text
    rw [given]
    rfl
  · exact absurd ⟨known, nothing, not_exists.mp text⟩ fine

private theorem orNull_asText_of_mistyped (mistyped : Mistyped m) :
    Value.orNull Value.asText m.2 = .error (.wrongType m.2.found .text) := by
  cases given : m.2 with
  | null => exact absurd given mistyped.something
  | string text => exact absurd given (mistyped.noText text)
  | bool b => rfl
  | number n => rfl
  | array vs => rfl
  | object ms => rfl

private theorem orNull_ok (v : Value) : Value.orNull .ok v = .ok (contentOf? v) := by
  cases v <;> rfl

private theorem lookup_concat (fresh : done.lookup m.1 = none) (key : String) :
    (done ++ [m]).lookup key = if m.1 = key then some m.2 else done.lookup key := by
  rw [List.lookup_append, List.lookup_cons, List.lookup_nil]
  by_cases same : m.1 = key
  · subst same
    simp [fresh]
  · have other : (key == m.1) = false := by simpa using Ne.symm same
    simp [same, other]

/-- One more member of the right kind makes the draft of one more member. -/
private theorem readMember_of_fine (fresh : done.lookup m.1 = none) (fine : ¬ Mistyped m) :
    record.readMember (draftOf done) m = .ok (draftOf (done ++ [m])) := by
  have extended := lookup_concat fresh
  obtain ⟨key, v⟩ := m
  by_cases text : key ∈ textKeys
  · have read := orNull_asText_of_fine fine text
    simp only [textKeys, List.mem_cons, List.not_mem_nil, or_false] at text
    rcases text with rfl | rfl | rfl | rfl
    all_goals
      simp [Json.Record.readMember, record, Json.Slot.of, Json.Slot.answers, draftOf, extended, fresh,
        read, Except.map]
  · by_cases condition : key = "condition"
    · subst condition
      simp [Json.Record.readMember, record, Json.Slot.of, Json.Slot.answers, draftOf, extended,
        fresh, orNull_ok, Except.map]
    · simp only [textKeys, List.mem_cons, List.not_mem_nil, or_false, not_or] at text
      simp [Json.Record.readMember, record, Json.Slot.of, Json.Slot.answers, draftOf, extended,
        text, condition]

/-- A member of the wrong kind ends the draft. -/
private theorem readMember_of_mistyped (fresh : done.lookup m.1 = none) (mistyped : Mistyped m) :
    record.readMember (draftOf done) m = .error (.wrongType m.2.found .text) := by
  have read := orNull_asText_of_mistyped mistyped
  have text := mistyped.known
  obtain ⟨key, v⟩ := m
  simp only [textKeys, List.mem_cons, List.not_mem_nil, or_false] at text
  rcases text with rfl | rfl | rfl | rfl
  all_goals
    simp [Json.Record.readMember, record, Json.Slot.of, Json.Slot.answers, draftOf, fresh, read,
      Except.map]

/-- Keys do not come twice, so that a member finds its place free. -/
private theorem lookup_eq_none (ordered : Json.Ordered (done ++ m :: ms)) :
    done.lookup m.1 = none := by
  rw [Json.Ordered, List.map_append, List.pairwise_append] at ordered
  rw [List.lookup_eq_none_iff]
  intro earlier member
  have before := ordered.2.2 earlier.1 (List.mem_map_of_mem member) m.1 (by simp)
  simpa using Ne.symm (ne_of_lt before)

/-- Reading members one by one gathers the draft of all of them. -/
private theorem foldlM_readMember (done : List (String × Value))
    (ordered : Json.Ordered (done ++ ms)) (typed : ∀ m ∈ ms, ¬ Mistyped m) :
    ms.foldlM record.readMember (draftOf done) = .ok (draftOf (done ++ ms)) := by
  induction ms generalizing done with
  | nil => simp [pure, Except.pure]
  | cons m ms ih =>
    have first := readMember_of_fine (lookup_eq_none ordered) (typed m List.mem_cons_self)
    rw [← List.singleton_append, ← List.append_assoc] at ordered
    have others := ih _ ordered fun m' member => typed m' (List.mem_cons_of_mem _ member)
    rw [List.append_assoc, List.singleton_append] at others
    rw [List.foldlM_cons, first]
    exact others

private theorem read_of_typed (ordered : Json.Ordered ms) (typed : ∀ m ∈ ms, ¬ Mistyped m) :
    record.read (.object ms) = .ok (draftOf ms, .named) := by
  have gathered : ms.foldlM record.readMember record.empty = .ok (draftOf ms) :=
    foldlM_readMember [] ordered typed
  rw [Json.Record.read, gathered]
  rfl

private theorem read_of_mistyped {before after : List (String × Value)}
    (ordered : Json.Ordered (before ++ m :: after)) (earlier : ∀ m' ∈ before, ¬ Mistyped m')
    (mistyped : Mistyped m) :
    record.read (.object (before ++ m :: after)) = .error (.wrongType m.2.found .text) := by
  have front : Json.Ordered before := by
    rw [Json.Ordered, List.map_append, List.pairwise_append] at ordered
    exact ordered.1
  have gathered : before.foldlM record.readMember record.empty = .ok (draftOf before) :=
    foldlM_readMember [] front earlier
  have ended := readMember_of_mistyped (lookup_eq_none ordered) mistyped
  rw [Json.Record.read, List.foldlM_append, gathered]
  change ((m :: after).foldlM record.readMember (draftOf before) >>= _) = _
  rw [List.foldlM_cons, ended]
  rfl

/-! ### What is required of a draft -/

/-- What only one value gives is given by a member if the member has that value. -/
private theorem join_lookup {given? : Value → Option α} {a : α} {v : Value}
    (only : ∀ w, given? w = some a ↔ w = v) :
    ((ms.lookup key).map given?).join = some a ↔ ms.lookup key = some v := by
  simp only [Option.join_eq_some_iff, Option.map_eq_some_iff, only, exists_eq_right]

private theorem join_textOf? : ((ms.lookup key).map textOf?).join = some text ↔
    ms.lookup key = some (.string text) :=
  join_lookup fun w => by cases w <;> simp [textOf?]

private theorem required_of_says (said : Says ms key text) :
    required key ((ms.lookup key).map textOf?).join = .ok text :=
  required_eq_ok.mpr ⟨join_textOf?.mpr said.1, Text.blank_eq_false.mpr said.2⟩

private theorem required_of_silent (silent : ∀ text, ¬ Says ms key text) :
    required key ((ms.lookup key).map textOf?).join = .error (.missingField key) := by
  cases given : ((ms.lookup key).map textOf?).join with
  | none => rfl
  | some text =>
    have blank : Text.blank text = true := by
      by_contra visible
      have shown := Text.blank_eq_false.mp (Bool.eq_false_iff.mpr visible)
      exact silent text ⟨join_textOf?.mp given, shown⟩
    rw [required, if_pos blank]

private theorem join_contentOf? {inside : List (String × Value)} :
    ((ms.lookup key).map contentOf?).join = some (.object inside) ↔
      ms.lookup key = some (.object inside) :=
  join_lookup fun w => by cases w <;> simp [contentOf?]

private theorem ofDraft_of_gives (given : Gives ms r) : ofDraft r.id (draftOf ms) = .ok r := by
  obtain ⟨-, described, ⟨type, inside, typed, condition, read⟩, graded⟩ := given
  obtain ⟨id, description, severity, condition'⟩ := r
  subst read
  simp only [ofDraft, draftOf, required_of_says described, required_of_says typed,
    join_contentOf?.mpr condition]
  cases graded with
  | absent nowhere =>
    rw [nowhere]
    rfl
  | null nothing =>
    rw [nothing]
    rfl
  | named s name =>
    rw [join_textOf?.mpr name]
    simp only [Severity.ofName?_name]
    rfl

/-! ### What becomes of an entry -/

private theorem ofEntry_of_typed (ordered : Json.Ordered ms) (typed : ∀ m ∈ ms, ¬ Mistyped m)
    {id : String} (named : Says ms "id" id) : ofEntry index (.object ms) =
      (ofDraft id (draftOf ms)).mapError fun cause => .entry ⟨index, some id⟩ cause := by
  have known : required "id" (draftOf ms).id.join = .ok id := required_of_says named
  simp only [ofEntry, read_of_typed ordered typed, known]
  cases ofDraft id (draftOf ms) <;> rfl

private theorem lookup_of_mem (ordered : Json.Ordered ms) (member : m ∈ ms) :
    ms.lookup m.1 = some m.2 := by
  obtain ⟨before, after, rfl⟩ := List.append_of_mem member
  rw [List.lookup_append, lookup_eq_none ordered, Option.none_or, List.lookup_cons, beq_self_eq_true]

/-- An entry that gives a rule has texts in all places for texts. -/
theorem Gives.typed (given : Gives ms r) (ordered : Json.Ordered ms) : ∀ m ∈ ms, ¬ Mistyped m := by
  intro m member mistyped
  have found := lookup_of_mem ordered member
  have notSaid {key text : String} (same : m.1 = key) (said : Says ms key text) : False := by
    rw [same, said.1] at found
    exact mistyped.noText text (Option.some.inj found).symm
  have known := mistyped.known
  simp only [textKeys, List.mem_cons, List.not_mem_nil, or_false] at known
  rcases known with same | same | same | same
  · exact notSaid same given.id
  · exact notSaid same given.description
  · obtain ⟨type, inside, typed, -⟩ := given.condition
    exact notSaid same typed
  · rw [same] at found
    have graded := given.severity
    generalize r.severity = severity at graded
    cases graded with
    | absent nowhere =>
      rw [nowhere] at found
      cases found
    | null nothing =>
      rw [nothing] at found
      exact mistyped.something (Option.some.inj found).symm
    | named s name =>
      rw [name] at found
      exact mistyped.noText _ (Option.some.inj found).symm

theorem ofEntry_of_gives (ordered : Json.Ordered ms) (given : Gives ms r) :
    ofEntry index (.object ms) = .ok r := by
  rw [ofEntry_of_typed ordered (given.typed ordered) given.id, ofDraft_of_gives given]
  rfl

theorem ofEntry_of_blamed {id : Option String} {cause : EntryError}
    (ordered : ∀ ms, e = .object ms → Json.Ordered ms) (blamed : Blamed e id cause) :
    ofEntry index e = .error (.entry ⟨index, id⟩ cause) := by
  cases blamed with
  | notObject other =>
    cases e with
    | object ms => exact absurd rfl (other ms)
    | null => rfl
    | bool b => rfl
    | number n => rfl
    | string s => rfl
    | array vs => rfl
  | malformed earlier mistyped =>
    rw [ofEntry, read_of_mistyped (ordered _ rfl) earlier mistyped]
  | @id ms typed silent =>
    have unknown : required "id" (draftOf ms).id.join = .error (.missingField "id") :=
      required_of_silent silent
    simp only [ofEntry, read_of_typed (ordered _ rfl) typed, unknown]
  | description typed named silent =>
    rw [ofEntry_of_typed (ordered _ rfl) typed named]
    simp only [ofDraft, draftOf, required_of_silent silent]
    rfl
  | type typed named described silent =>
    rw [ofEntry_of_typed (ordered _ rfl) typed named]
    simp only [ofDraft, draftOf, required_of_says described, required_of_silent silent]
    rfl
  | @condition ms id description type typed named described sorted other =>
    rw [ofEntry_of_typed (ordered _ rfl) typed named]
    simp only [ofDraft, draftOf, required_of_says described, required_of_says sorted]
    cases condition : ((ms.lookup "condition").map contentOf?).join with
    | none => rfl
    | some v =>
      cases v with
      | object inside => exact absurd (join_contentOf?.mp condition) (other inside)
      | null => rfl
      | bool b => rfl
      | number n => rfl
      | string s => rfl
      | array vs => rfl
  | severity typed named described sorted given graded unknown =>
    rw [ofEntry_of_typed (ordered _ rfl) typed named]
    simp only [ofDraft, draftOf, required_of_says described, required_of_says sorted,
      join_contentOf?.mpr given, join_textOf?.mpr graded, Severity.ofName?_eq_none unknown]
    rfl

/-- Any text in the place of the severity names one, or none that there is. -/
private theorem grades_or_unknown (typed : ∀ m ∈ ms, ¬ Mistyped m) :
    (∃ severity, Grades ms severity) ∨
      ∃ name, ms.lookup "severity" = some (.string name) ∧ ∀ s, Severity.name s ≠ name := by
  cases found : ms.lookup "severity" with
  | none => exact .inl ⟨none, .absent found⟩
  | some v =>
    obtain ⟨before, after, rfl, -⟩ := List.lookup_eq_some_iff.mp found
    by_cases nothing : v = .null
    · exact .inl ⟨none, .null (nothing ▸ found)⟩
    by_cases text : ∃ name, v = .string name
    · obtain ⟨name, rfl⟩ := text
      by_cases known : ∃ s, Severity.name s = name
      · obtain ⟨s, rfl⟩ := known
        exact .inl ⟨some s, .named s found⟩
      · exact .inr ⟨name, rfl, not_exists.mp known⟩
    · have mistyped : Mistyped ("severity", v) :=
        ⟨by simp [textKeys], nothing, not_exists.mp text⟩
      exact absurd mistyped (typed _ (by simp))

theorem acceptable_iff : Acceptable ms ↔ ∃ r, Gives ms r := by
  constructor
  · rintro ⟨⟨id, named⟩, ⟨description, described⟩, ⟨type, sorted⟩, ⟨inside, condition⟩, listed⟩
    have graded : ∃ severity, Grades ms severity := by
      simp only [List.mem_cons, List.not_mem_nil, or_false] at listed
      rcases listed with nowhere | nothing | error | warning
      · exact ⟨none, .absent nowhere⟩
      · exact ⟨none, .null nothing⟩
      · exact ⟨some .error, .named .error error⟩
      · exact ⟨some .warning, .named .warning warning⟩
    obtain ⟨severity, graded⟩ := graded
    exact ⟨⟨id, description, severity, .read type (.object inside)⟩, named, described,
      ⟨type, inside, sorted, condition, rfl⟩, graded⟩
  · rintro ⟨r, named, described, ⟨type, inside, sorted, condition, -⟩, graded⟩
    refine ⟨⟨r.id, named⟩, ⟨r.description, described⟩, ⟨type, sorted⟩, ⟨inside, condition⟩, ?_⟩
    generalize r.severity = severity at graded
    cases graded with
    | absent nowhere => simp [nowhere]
    | null nothing => simp [nothing]
    | named s name => cases s <;> simp [name, Severity.name]

/-- An object gives a rule or is to blame for something. -/
theorem gives_or_blamed (ms : List (String × Value)) :
    (∃ r, Gives ms r) ∨ ∃ id cause, Blamed (.object ms) id cause := by
  -- the reasons are tried in the order in which they count
  rcases exists_first (fun m => ¬ Mistyped m) ms with typed | ⟨before, m, after, rfl, earlier, bad⟩
  · by_cases silent : ∀ text, ¬ Says ms "id" text
    · exact .inr ⟨none, _, .id typed silent⟩
    obtain ⟨id, named⟩ := not_forall_not.mp silent
    by_cases silent : ∀ text, ¬ Says ms "description" text
    · exact .inr ⟨some id, _, .description typed named silent⟩
    obtain ⟨description, described⟩ := not_forall_not.mp silent
    by_cases silent : ∀ text, ¬ Says ms "type" text
    · exact .inr ⟨some id, _, .type typed named described silent⟩
    obtain ⟨type, sorted⟩ := not_forall_not.mp silent
    by_cases other : ∀ inside, ms.lookup "condition" ≠ some (.object inside)
    · exact .inr ⟨some id, _, .condition typed named described sorted other⟩
    obtain ⟨inside, given⟩ := not_forall_not.mp other
    rcases grades_or_unknown typed with ⟨severity, graded⟩ | ⟨name, graded, unknown⟩
    · exact .inl ⟨⟨id, description, severity, .read type (.object inside)⟩, named, described,
        ⟨type, inside, sorted, given, rfl⟩, graded⟩
    · exact .inr ⟨some id, _, .severity typed named described sorted given graded unknown⟩
  · exact .inr ⟨none, _, .malformed earlier (not_not.mp bad)⟩

/-- The entry is an object that gives the rule. -/
def Yields (e : Value) (r : Rule) : Prop := ∃ ms, e = .object ms ∧ Gives ms r

/-- The entry is an object that has all that a rule needs. -/
def Usable (e : Value) : Prop := ∃ ms, e = .object ms ∧ Acceptable ms

theorem usable_iff : Usable e ↔ ∃ r, Yields e r := by
  simp only [Usable, Yields, acceptable_iff]
  constructor
  · rintro ⟨ms, object, r, gives⟩
    exact ⟨r, ms, object, gives⟩
  · rintro ⟨r, ms, object, gives⟩
    exact ⟨ms, object, r, gives⟩

theorem yields_or_blamed (e : Value) : (∃ r, Yields e r) ∨ ∃ id cause, Blamed e id cause := by
  by_cases other : ∀ ms, e ≠ .object ms
  · exact .inr ⟨none, _, .notObject other⟩
  obtain ⟨ms, rfl⟩ := not_forall_not.mp other
  rcases gives_or_blamed ms with ⟨r, gives⟩ | blamed
  · exact .inl ⟨r, ms, rfl, gives⟩
  · exact .inr blamed

private theorem ordered_of_sorted (sorted : e.Sorted) : ∀ ms, e = .object ms → Json.Ordered ms := by
  rintro ms rfl
  cases sorted with
  | object ordered _ => exact ordered

theorem ofEntry_eq_ok (sorted : e.Sorted) : ofEntry index e = .ok r ↔ Yields e r := by
  constructor
  · intro made
    rcases yields_or_blamed e with ⟨r', ms, rfl, gives⟩ | ⟨id, cause, blamed⟩
    · rw [ofEntry_of_gives (ordered_of_sorted sorted ms rfl) gives] at made
      cases made
      exact ⟨ms, rfl, gives⟩
    · rw [ofEntry_of_blamed (ordered_of_sorted sorted) blamed] at made
      cases made
  · rintro ⟨ms, rfl, gives⟩
    exact ofEntry_of_gives (ordered_of_sorted sorted ms rfl) gives

theorem ofEntry_eq_error (sorted : e.Sorted) {error : RuleSetError} :
    ofEntry index e = .error error ↔
      ∃ id cause, Blamed e id cause ∧ error = .entry ⟨index, id⟩ cause := by
  constructor
  · intro failed
    rcases yields_or_blamed e with yields | ⟨id, cause, blamed⟩
    · obtain ⟨r, yields⟩ := yields
      rw [(ofEntry_eq_ok sorted).mpr yields] at failed
      cases failed
    · rw [ofEntry_of_blamed (ordered_of_sorted sorted) blamed] at failed
      cases failed
      exact ⟨id, cause, blamed, rfl⟩
  · rintro ⟨id, cause, blamed, rfl⟩
    exact ofEntry_of_blamed (ordered_of_sorted sorted) blamed

end Rule

/-! ### What becomes of a list of entries -/

namespace RuleSet

open Rule (Usable Yields Blamed)

theorem ofEntries_eq_ok (sorted : ∀ e ∈ es, e.Sorted) :
    ofEntries index es = .ok rules ↔ List.Forall₂ Yields es rules := by
  induction es generalizing index rules with
  | nil =>
    constructor
    · intro made
      cases made
      exact .nil
    · intro made
      cases made
      rfl
  | cons e es ih =>
    obtain ⟨first, others⟩ := List.forall_mem_cons.mp sorted
    simp only [ofEntries, bind_eq_ok, Rule.ofEntry_eq_ok first, ih others, List.forall₂_cons_left_iff]
    constructor
    · rintro ⟨r, yields, rs, made, same⟩
      cases same
      exact ⟨r, rs, yields, made, rfl⟩
    · rintro ⟨r, rs, yields, made, rfl⟩
      exact ⟨r, yields, rs, made, rfl⟩

theorem exists_yields_iff : (∃ rules, List.Forall₂ Yields es rules) ↔ ∀ e ∈ es, Usable e := by
  induction es with
  | nil => exact ⟨fun _ e listed => absurd listed List.not_mem_nil, fun _ => ⟨[], .nil⟩⟩
  | cons e es ih =>
    rw [List.forall_mem_cons, Rule.usable_iff, ← ih]
    simp only [List.forall₂_cons_left_iff]
    constructor
    · rintro ⟨-, r, rules, yields, others, rfl⟩
      exact ⟨⟨r, yields⟩, rules, others⟩
    · rintro ⟨⟨r, yields⟩, rules, others⟩
      exact ⟨r :: rules, r, rules, yields, others, rfl⟩

/-- Entries that can be used only move the place of the first that cannot. -/
private theorem ofEntries_of_blamed {before after : List Value} {id : Option String}
    {cause : EntryError} (sorted : ∀ e' ∈ before ++ e :: after, e'.Sorted)
    (usable : ∀ e' ∈ before, Usable e') (blamed : Blamed e id cause) :
    ofEntries index (before ++ e :: after) = .error (.entry ⟨index + before.length, id⟩ cause) := by
  induction before generalizing index with
  | nil =>
    have failed : Rule.ofEntry index e = .error (.entry ⟨index, id⟩ cause) :=
      (Rule.ofEntry_eq_error (sorted e (by simp))).mpr ⟨id, cause, blamed, rfl⟩
    rw [List.nil_append, ofEntries, failed]
    rfl
  | cons first before ih =>
    obtain ⟨front, usable⟩ := List.forall_mem_cons.mp usable
    obtain ⟨r, yields⟩ := Rule.usable_iff.mp front
    rw [List.cons_append] at sorted ⊢
    obtain ⟨fine, sorted⟩ := List.forall_mem_cons.mp sorted
    rw [ofEntries, (Rule.ofEntry_eq_ok fine).mpr yields]
    change (ofEntries (index + 1) (before ++ e :: after) >>= _) = _
    rw [ih sorted usable, List.length_cons, Nat.add_right_comm, Nat.add_assoc]
    rfl

theorem ofEntries_eq_error (sorted : ∀ e ∈ es, e.Sorted) {error : RuleSetError} :
    ofEntries index es = .error error ↔ ∃ before e after id cause, es = before ++ e :: after ∧
      (∀ e' ∈ before, Usable e') ∧ Blamed e id cause ∧
      error = .entry ⟨index + before.length, id⟩ cause := by
  constructor
  · intro failed
    rcases exists_first Usable es with all | ⟨before, e, after, rfl, usable, useless⟩
    · obtain ⟨rules, yields⟩ := exists_yields_iff.mpr all
      rw [(ofEntries_eq_ok sorted).mpr yields] at failed
      cases failed
    · rcases Rule.yields_or_blamed e with yields | ⟨id, cause, blamed⟩
      · exact absurd (Rule.usable_iff.mpr yields) useless
      · rw [ofEntries_of_blamed sorted usable blamed] at failed
        cases failed
        exact ⟨before, e, after, id, cause, rfl, usable, blamed, rfl⟩
  · rintro ⟨before, e, after, id, cause, rfl, usable, blamed, rfl⟩
    exact ofEntries_of_blamed sorted usable blamed

private theorem exists_said (name : EntryName) (cause : EntryError) :
    ∃ said, (RuleSetError.entry name cause).message = name.text ++ ": " ++ said := by
  have behind {tail said : String} (same : tail = ": " ++ said) :
      name.text ++ tail = name.text ++ ": " ++ said := by
    rw [same, String.append_assoc]
  cases cause with
  | notObject found =>
    exact ⟨"expected a rule object, found " ++ found,
      behind (String.toList_inj.mp (by simp [toString]))⟩
  | malformed m => exact ⟨m.message, behind rfl⟩
  | missingField field =>
    exact ⟨"missing required field `" ++ field ++ "`",
      behind (String.toList_inj.mp (by simp [toString]))⟩
  | badCondition =>
    exact ⟨"`condition` must be an object", behind (String.toList_inj.mp (by simp))⟩
  | unknownSeverity name =>
    exact ⟨"unknown severity `" ++ name ++ "`, expected: error, warning",
      behind (String.toList_inj.mp (by simp [toString]))⟩

/-- A complaint about an entry begins with the place of the entry and, where it is known, its id. -/
theorem exists_message (index : Nat) (id : Option String) (cause : EntryError) :
    ∃ said, (RuleSetError.entry ⟨index, id⟩ cause).message =
      "rules[" ++ toString index ++ "]" ++ (id.elim "" fun id => " (" ++ id ++ ")") ++
        ": " ++ said := by
  have named : (EntryName.mk index id).text =
      "rules[" ++ toString index ++ "]" ++ id.elim "" fun id => " (" ++ id ++ ")" := by
    apply String.toList_inj.mp
    cases id <;> simp [EntryName.text, toString]
  rw [← named]
  exact exists_said ⟨index, id⟩ cause

/-- A list of entries is a rule set as a whole or not at all. It is one if and only if each entry
can be used, and then each rule is the one of the entry in its place. Otherwise the first entry that
cannot be used is complained about, for the first reason there is. -/
theorem ofText_all_or_nothing {source : String} (read : Value.ofText text = .ok (.array es)) :
    ((∃ rules, ofText source text = .ok rules) ↔ ∀ e ∈ es, Usable e) ∧
      (∀ rules, ofText source text = .ok rules ↔ List.Forall₂ Yields es rules) ∧
      ∀ error, ofText source text = .error error ↔ ∃ before e after id cause,
        es = before ++ e :: after ∧ (∀ e' ∈ before, Usable e') ∧ Blamed e id cause ∧
        error = .entry ⟨before.length, id⟩ cause ∧ ∃ said, error.message =
          "rules[" ++ toString before.length ++ "]" ++ (id.elim "" fun id => " (" ++ id ++ ")") ++
            ": " ++ said := by
  have sorted : ∀ e ∈ es, e.Sorted := by
    obtain ⟨-, sorted⟩ := Json.fits_and_sorted_of_ofText read
    cases sorted with
    | array sorted => exact sorted
  have made : ofText source text = ofEntries 0 es := by
    rw [ofText, read]
    rfl
  rw [made]
  have loaded (rules : List Rule) : ofEntries 0 es = .ok rules ↔ List.Forall₂ Yields es rules :=
    ofEntries_eq_ok sorted
  refine ⟨?_, loaded, fun error => ?_⟩
  · rw [← exists_yields_iff]
    exact exists_congr loaded
  · rw [ofEntries_eq_error sorted]
    constructor
    · rintro ⟨before, e, after, id, cause, split, usable, blamed, rfl⟩
      rw [Nat.zero_add]
      exact ⟨before, e, after, id, cause, split, usable, blamed, rfl, exists_message _ id cause⟩
    · rintro ⟨before, e, after, id, cause, split, usable, blamed, rfl, -⟩
      rw [← Nat.zero_add before.length]
      exact ⟨before, e, after, id, cause, split, usable, blamed, by simp⟩

/-- The first entry gives a rule. The second has a blank description and lacks much else. -/
def spoiltText : String :=
  "[\x7b\"id\":\"a\",\"description\":\"b\",\"type\":\"c\",\"condition\":\x7b\x7d\x7d,"
    ++ "\x7b\"id\":\"d\",\"description\":\" \"\x7d]"

theorem ofText_all_or_nothing_spoilt :
    ofText usualSource spoiltText = .error (.entry ⟨1, some "d"⟩ (.missingField "description")) := by
  let good : List (String × Value) := [("condition", .object []), ("description", .string "b"),
    ("id", .string "a"), ("type", .string "c")]
  let spoilt : List (String × Value) := [("description", .string " "), ("id", .string "d")]
  have read : Value.ofText spoiltText = .ok (.array [.object good, .object spoilt]) := by
    cbv
  have visible {text : String} (given : Text.blank text = false) :=
    Text.blank_eq_false.mp given
  have usable : Usable (.object good) :=
    ⟨good, rfl, ⟨"a", rfl, visible (by decide +kernel)⟩, ⟨"b", rfl, visible (by decide +kernel)⟩,
      ⟨"c", rfl, visible (by decide +kernel)⟩, ⟨[], rfl⟩, List.mem_cons_self⟩
  have typed : ∀ m ∈ spoilt, ¬ Rule.Mistyped m := by
    intro m listed mistyped
    simp only [spoilt, List.mem_cons, List.not_mem_nil, or_false] at listed
    rcases listed with rfl | rfl
    · exact mistyped.noText " " rfl
    · exact mistyped.noText "d" rfl
  have silent : ∀ text, ¬ Rule.Says spoilt "description" text := by
    rintro text ⟨found, seen⟩
    have only : spoilt.lookup "description" = some (.string " ") := rfl
    rw [only] at found
    cases found
    have blank : Text.blank " " = true := by decide +kernel
    rw [Text.blank_eq_false.mpr seen] at blank
    cases blank
  have blamed : Blamed (.object spoilt) (some "d") (.missingField "description") :=
    .description typed ⟨rfl, visible (by decide +kernel)⟩ silent
  refine ((ofText_all_or_nothing read).2.2 _).mpr ⟨[.object good], .object spoilt, [], some "d",
    .missingField "description", rfl, ?_, blamed, rfl, exists_message 1 (some "d") _⟩
  simpa using usable

end RuleSet
end CanvasLint
