import CanvasLint.Proofs.Json.ReadValues
import CanvasLint.Proofs.Outcome
import CanvasLint.Rule.Condition

/-! Conditions and their written form. A requirement is written under its usual names with all
values filled in, and read from that as itself; a condition of any other kind is written as it was
given. So a condition is what its written form is read as, and it changes on the way through a text
if and only if the written form does. -/
namespace CanvasLint

open Json (Number Ordered Value)

variable {v w : Value} {ms : List (String × Value)} {kind : RuleKind} {r : Requirement}
  {name field : String} {budget : Nat} {x : Float}

namespace Requirement

/-- Members that come in order and hold no parts of their own. -/
private structure Flat (ms : List (String × Value)) : Prop where
  ordered : Ordered ms
  plain : ∀ m ∈ ms, m.2.Sorted ∧ ∀ budget, m.2.Fits budget

private theorem flat_nil : Flat [] :=
  ⟨List.Pairwise.nil, fun _ member => absurd member List.not_mem_nil⟩

private theorem flat_one {key : String} (plain : v.Sorted ∧ ∀ budget, v.Fits budget) :
    Flat [(key, v)] := by
  refine ⟨List.pairwise_singleton _ _, fun m member => ?_⟩
  rw [List.mem_singleton.mp member]
  exact plain

private theorem flat_two {key key' : String} (before : key < key')
    (plain : v.Sorted ∧ ∀ budget, v.Fits budget) (plain' : w.Sorted ∧ ∀ budget, w.Fits budget) :
    Flat [(key, v), (key', w)] := by
  refine ⟨List.pairwise_pair.mpr before, fun m member => ?_⟩
  rcases List.mem_cons.mp member with rfl | member
  · exact plain
  · rw [List.mem_singleton.mp member]
    exact plain'

/-- Parameters are written as an object with flat members. -/
private theorem exists_write (r : Requirement) : ∃ ms, r.write = .object ms ∧ Flat ms := by
  have text (s : String) : (Value.string s).Sorted ∧ ∀ budget, (Value.string s).Fits budget :=
    ⟨.string s, fun _ => .string s⟩
  have flag (b : Bool) : (Value.bool b).Sorted ∧ ∀ budget, (Value.bool b).Fits budget :=
    ⟨.bool b, fun _ => .bool b⟩
  have real (x : Float) : (Value.float x).Sorted ∧ ∀ budget, (Value.float x).Fits budget :=
    ⟨.number _, fun _ => .number trivial⟩
  cases r with
  | requiredText r => exact ⟨_, rfl, flat_two (by decide) (flag _) (text _)⟩
  | fontSize r =>
    match r with
    | ⟨none, none⟩ => exact ⟨_, rfl, flat_nil⟩
    | ⟨some min, none⟩ => exact ⟨_, rfl, flat_one (real min)⟩
    | ⟨none, some max⟩ => exact ⟨_, rfl, flat_one (real max)⟩
    | ⟨some min, some max⟩ => exact ⟨_, rfl, flat_two (by decide) (real max) (real min)⟩
  | colorContrast r => exact ⟨_, rfl, flat_one (real _)⟩
  | requiredComponent r => exact ⟨_, rfl, flat_one (text _)⟩
  | componentPresence r => exact ⟨_, rfl, flat_one (text _)⟩
  | elementSize r => exact ⟨_, rfl, flat_two (by decide) (real _) (real _)⟩
  | labelPresence r =>
    match r with
    | ⟨none⟩ => exact ⟨_, rfl, flat_nil⟩
    | ⟨some target⟩ => exact ⟨_, rfl, flat_one (text target)⟩
  | textUniqueness r => exact ⟨_, rfl, flat_one (text _)⟩
  | headingPresence r =>
    match r with
    | ⟨none⟩ => exact ⟨_, rfl, flat_nil⟩
    | ⟨some style⟩ => exact ⟨_, rfl, flat_one (text style)⟩
  | altTextPresence r =>
    match r with
    | ⟨none⟩ => exact ⟨_, rfl, flat_nil⟩
    | ⟨some target⟩ => exact ⟨_, rfl, flat_one (text target)⟩
  | elementAlignment r => exact ⟨_, rfl, flat_two (by decide) (text _) (text _)⟩
  | spacing r =>
    match r with
    | ⟨min, none⟩ => exact ⟨_, rfl, flat_one (real min)⟩
    | ⟨min, some max⟩ => exact ⟨_, rfl, flat_two (by decide) (real max) (real min)⟩
  | imageAlt => exact ⟨_, rfl, flat_nil⟩

theorem sorted_write (r : Requirement) : r.write.Sorted := by
  obtain ⟨ms, write, flat⟩ := r.exists_write
  rw [write]
  exact .object flat.ordered fun m member => (flat.plain m member).1

theorem fits_write (r : Requirement) (budget : Nat) : r.write.Fits (budget + 1) := by
  obtain ⟨ms, write, flat⟩ := r.exists_write
  rw [write]
  exact .object fun m member => (flat.plain m member).2 budget

theorem read_write (r : Requirement) : read r.kind r.write = .ok r := by
  cases r with
  | fontSize r => obtain ⟨_ | a, _ | b⟩ := r <;> rfl
  | labelPresence r => obtain ⟨_ | a⟩ := r <;> rfl
  | headingPresence r => obtain ⟨_ | a⟩ := r <;> rfl
  | altTextPresence r => obtain ⟨_ | a⟩ := r <;> rfl
  | spacing r => obtain ⟨a, _ | b⟩ := r <;> rfl
  | requiredText r => rfl
  | colorContrast r => rfl
  | requiredComponent r => rfl
  | componentPresence r => rfl
  | elementSize r => rfl
  | textUniqueness r => rfl
  | elementAlignment r => rfl
  | imageAlt => rfl

/-- Parameters of a kind are read as a requirement of this kind. -/
theorem kind_of_read (known : read kind v = .ok r) : r.kind = kind := by
  cases kind <;> simp only [read, Outcome.bind_eq_ok] at known
  -- the cases differ in how many fields have to be there
  case fontSize | colorContrast | labelPresence | headingPresence | altTextPresence | spacing |
      imageAlt =>
    obtain ⟨_, -, same⟩ := known
    cases same
    rfl
  case requiredText | requiredComponent | componentPresence | textUniqueness =>
    obtain ⟨_, -, _, -, same⟩ := known
    cases same
    rfl
  case elementSize | elementAlignment =>
    obtain ⟨_, -, _, -, _, -, same⟩ := known
    cases same
    rfl

/-! ### Floats among the parameters -/

private theorem reread_float {key : String} {x : Float}
    (reread : Json.rereadMembers? [(key, .float x)] = some ms) :
    ms = [(key, .null)] ∨ ∃ y, ms = [(key, .float y)] := by
  obtain ⟨w, float, rest⟩ := Option.bind_eq_some_iff.mp reread
  obtain rfl := Option.some.inj rest
  rcases Json.reread?_float float with rfl | ⟨y, rfl⟩
  · exact .inl rfl
  · exact .inr ⟨y, rfl⟩

private theorem reread_floats {key key' : String} {x x' : Float}
    (reread : Json.rereadMembers? [(key, .float x), (key', .float x')] = some ms) :
    ∃ w w', ms = [(key, w), (key', w')] ∧ (w = .null ∨ ∃ y, w = .float y) ∧
      (w' = .null ∨ ∃ y', w' = .float y') := by
  obtain ⟨w, float, rest⟩ := Option.bind_eq_some_iff.mp reread
  obtain ⟨ms', others, rfl⟩ := Option.map_eq_some_iff.mp rest
  rcases reread_float others with rfl | ⟨y', rfl⟩
  · exact ⟨w, _, rfl, Json.reread?_float float, .inl rfl⟩
  · exact ⟨w, _, rfl, Json.reread?_float float, .inr ⟨y', rfl⟩⟩

/-- The floats among the parameters. -/
def floats : Requirement → List Float
  | fontSize r => r.max.toList ++ r.min.toList
  | colorContrast r => [r.minContrast]
  | elementSize r => [r.minHeight, r.minWidth]
  | spacing r => r.max.toList ++ [r.min]
  | requiredText _ | requiredComponent _ | componentPresence _ | labelPresence _ | textUniqueness _
  | headingPresence _ | altTextPresence _ | elementAlignment _ | imageAlt => []

private theorem exists_of_holds (holds : (Value.object ms).Holds x) : ∃ m ∈ ms, m.2.Holds x := by
  cases holds with
  | member listed inside => exact ⟨_, listed, inside⟩

private theorem mem_of_holds_single {y : Float}
    (holds : ∃ m ∈ [(field, Value.float y)], m.2.Holds x) : x ∈ [y] := by
  obtain ⟨m, listed, inside⟩ := holds
  obtain rfl := List.mem_singleton.mp listed
  cases inside
  exact List.mem_singleton_self x

private theorem mem_of_holds_optional {y : Option Float}
    (holds : ∃ m ∈ optional field Value.float y, m.2.Holds x) : x ∈ y.toList := by
  cases y with
  | none =>
    obtain ⟨m, listed, inside⟩ := holds
    cases listed
  | some y => exact mem_of_holds_single holds

private theorem not_holds_optional {text : Option String} :
    ¬ ∃ m ∈ optional field Value.string text, m.2.Holds x := by
  rintro ⟨m, listed, inside⟩
  cases text with
  | none => cases listed
  | some text =>
    obtain rfl := List.mem_singleton.mp listed
    cases inside

/-- No other floats are written than those among the parameters. -/
theorem mem_floats_of_holds (holds : r.write.Holds x) : x ∈ r.floats := by
  cases r with
  | fontSize r =>
    obtain ⟨m, listed, inside⟩ := exists_of_holds holds
    rcases List.mem_append.mp listed with max | min
    · exact List.mem_append_left _ (mem_of_holds_optional ⟨m, max, inside⟩)
    · exact List.mem_append_right _ (mem_of_holds_optional ⟨m, min, inside⟩)
  | colorContrast r =>
    exact mem_of_holds_single (exists_of_holds holds)
  | elementSize r =>
    obtain ⟨m, listed, inside⟩ := exists_of_holds holds
    rcases List.mem_cons.mp listed with rfl | width
    · cases inside
      exact List.mem_cons_self
    · exact List.mem_cons_of_mem _ (mem_of_holds_single ⟨m, width, inside⟩)
  | spacing r =>
    obtain ⟨m, listed, inside⟩ := exists_of_holds holds
    rcases List.mem_append.mp listed with max | min
    · exact List.mem_append_left _ (mem_of_holds_optional ⟨m, max, inside⟩)
    · exact List.mem_append_right _ (mem_of_holds_single ⟨m, min, inside⟩)
  | labelPresence r | headingPresence r | altTextPresence r =>
    exact absurd (exists_of_holds holds) not_holds_optional
  -- texts and flags only
  | requiredText r | requiredComponent r | componentPresence r | textUniqueness r
  | elementAlignment r =>
    obtain ⟨m, listed, inside⟩ := exists_of_holds holds
    simp only [List.mem_cons, List.not_mem_nil, or_false] at listed
    rcases listed with rfl | rfl <;> cases inside
  | imageAlt =>
    obtain ⟨m, listed, -⟩ := exists_of_holds holds
    cases listed

private theorem isFinite_of_checkSize (sound : checkSize field x = .ok ()) : x.isFinite := by
  rw [checkSize] at sound
  split at sound
  · rename_i both
    exact (Bool.and_eq_true_iff.mp both).1
  · cases sound

private theorem isFinite_of_checkSize? {y : Option Float} (sound : checkSize? field y = .ok ())
    (given : x ∈ y.toList) : x.isFinite := by
  cases y with
  | none => cases given
  | some y =>
    obtain rfl := List.mem_singleton.mp given
    exact isFinite_of_checkSize sound

/-- Parameters that make sense are finite. -/
theorem isFinite_of_validate (sound : r.validate = .ok ()) (listed : x ∈ r.floats) : x.isFinite := by
  cases r <;> simp only [validate, Outcome.bind_eq_ok] at sound
  case fontSize r =>
    obtain ⟨_, min, _, max, -⟩ := sound
    rcases List.mem_append.mp listed with given | given
    · exact isFinite_of_checkSize? max given
    · exact isFinite_of_checkSize? min given
  case colorContrast r =>
    obtain rfl := List.mem_singleton.mp listed
    split at sound
    · rename_i inRange
      simp only [Bool.and_eq_true] at inRange
      exact inRange.1.1
    · cases sound
  case elementSize r =>
    obtain ⟨_, width, height⟩ := sound
    rcases List.mem_cons.mp listed with rfl | given
    · exact isFinite_of_checkSize height
    · obtain rfl := List.mem_singleton.mp given
      exact isFinite_of_checkSize width
  case spacing r =>
    obtain ⟨_, min, max⟩ := sound
    rcases List.mem_append.mp listed with given | given
    · rw [Option.mem_toList] at given
      rw [given] at max
      dsimp only at max
      split at max
      · cases max
      · rename_i inRange
        simp only [Bool.or_eq_true, Bool.not_eq_true', not_or, Bool.not_eq_false] at inRange
        exact inRange.1
    · obtain rfl := List.mem_singleton.mp given
      exact isFinite_of_checkSize min
  -- no floats
  all_goals exact absurd listed List.not_mem_nil

/-- If written parameters are read as they were, then their text is. -/
theorem eq_write_of_read (reread : r.write.reread? = some w) (same : read r.kind w = .ok r) :
    w = r.write := by
  obtain ⟨ms, write, flat⟩ := r.exists_write
  rw [write] at reread ⊢
  obtain ⟨ms', parts, rfl⟩ := (Json.reread?_object_eq_some flat.ordered).mp reread
  cases r with
  | colorContrast r =>
    obtain ⟨x⟩ := r
    cases write
    rcases reread_float parts with rfl | ⟨y, rfl⟩
    · cases same
    · cases same
      rfl
  | elementSize r =>
    obtain ⟨width, height⟩ := r
    cases write
    obtain ⟨w, w', rfl, rfl | ⟨y, rfl⟩, rfl | ⟨y', rfl⟩⟩ := reread_floats parts
    · cases same
    · cases same
    · cases same
    · cases same
      rfl
  | fontSize r =>
    match r with
    | ⟨none, none⟩ =>
      cases write
      exact congrArg Value.object (Option.some.inj parts).symm
    | ⟨some min, none⟩ =>
      cases write
      rcases reread_float parts with rfl | ⟨y, rfl⟩
      · cases same
      · cases same
        rfl
    | ⟨none, some max⟩ =>
      cases write
      rcases reread_float parts with rfl | ⟨y, rfl⟩
      · cases same
      · cases same
        rfl
    | ⟨some min, some max⟩ =>
      cases write
      obtain ⟨w, w', rfl, rfl | ⟨y, rfl⟩, rfl | ⟨y', rfl⟩⟩ := reread_floats parts
      · cases same
      · cases same
      · cases same
      · cases same
        rfl
  | spacing r =>
    match r with
    | ⟨min, none⟩ =>
      cases write
      rcases reread_float parts with rfl | ⟨y, rfl⟩
      · cases same
      · cases same
        rfl
    | ⟨min, some max⟩ =>
      cases write
      obtain ⟨w, w', rfl, rfl | ⟨y, rfl⟩, rfl | ⟨y', rfl⟩⟩ := reread_floats parts
      · cases same
      · cases same
      · cases same
      · cases same
        rfl
  -- texts and flags are read as they were
  | requiredText r | requiredComponent r | componentPresence r | textUniqueness r
  | elementAlignment r =>
    cases write
    exact congrArg Value.object (Option.some.inj parts).symm
  | labelPresence r | headingPresence r | altTextPresence r =>
    obtain ⟨_ | text⟩ := r <;> cases write
    · exact congrArg Value.object (Option.some.inj parts).symm
    · exact congrArg Value.object (Option.some.inj parts).symm
  | imageAlt =>
    cases write
    exact congrArg Value.object (Option.some.inj parts).symm

end Requirement

/-! ### Conditions -/

namespace Condition

theorem requirement_eq_ok : requirement kind v = .ok r ↔
    Requirement.read kind v = .ok r ∧ r.validate = .ok () := by
  rw [requirement]
  cases Requirement.read kind v with
  | error m => simp
  | ok r' =>
    dsimp only
    cases valid : r'.validate with
    | error e =>
      refine ⟨nofun, fun ⟨same, valid'⟩ => ?_⟩
      cases same
      rw [valid] at valid'
      cases valid'
    | ok u =>
      refine ⟨fun same => ?_, fun ⟨same, _⟩ => congrArg Except.ok (Except.ok.inj same)⟩
      cases same
      exact ⟨rfl, valid⟩

/-- Conditions of a known type are read as those of its kind. -/
theorem read_name (kind : RuleKind) (v : Value) : read kind.type.name v = readAs kind v := by
  cases kind <;> rfl

/-- A condition of a known type can be used if its parameters can be read and make sense. -/
theorem read_eq_valid_iff : read kind.type.name v = .valid r ↔
    Requirement.read kind v = .ok r ∧ r.validate = .ok () := by
  rw [read_name, readAs, ← requirement_eq_ok]
  cases requirement kind v with
  | error reason => exact ⟨nofun, nofun⟩
  | ok r' => rw [valid.injEq, Except.ok.injEq]

/-- The three kinds of conditions, and what the text says about each. -/
theorem read_cases (name : String) (v : Value) :
    ((∀ kind : RuleKind, kind.type.name ≠ name) ∧ read name v = .unknown name v) ∨
    (∃ kind reason, kind.type.name = name ∧ requirement kind v = .error reason ∧
      read name v = .invalid kind reason v) ∨
    ∃ kind r, kind.type.name = name ∧ requirement kind v = .ok r ∧ read name v = .valid r := by
  by_cases known : ∃ kind : RuleKind, kind.type.name = name
  · obtain ⟨kind, rfl⟩ := known
    rw [read_name, readAs]
    cases outcome : requirement kind v with
    | error reason => exact .inr (.inl ⟨kind, reason, rfl, outcome, rfl⟩)
    | ok r => exact .inr (.inr ⟨kind, r, rfl, outcome, rfl⟩)
  · have unlisted (kind : RuleKind) : kind.type.name ≠ name := fun same => known ⟨kind, same⟩
    refine .inl ⟨unlisted, ?_⟩
    unfold read
    split
    · exact absurd rfl (unlisted .requiredText)
    · exact absurd rfl (unlisted .fontSize)
    · exact absurd rfl (unlisted .colorContrast)
    · exact absurd rfl (unlisted .requiredComponent)
    · exact absurd rfl (unlisted .componentPresence)
    · exact absurd rfl (unlisted .elementSize)
    · exact absurd rfl (unlisted .labelPresence)
    · exact absurd rfl (unlisted .textUniqueness)
    · exact absurd rfl (unlisted .headingPresence)
    · exact absurd rfl (unlisted .altTextPresence)
    · exact absurd rfl (unlisted .elementAlignment)
    · exact absurd rfl (unlisted .spacing)
    · exact absurd rfl (unlisted .imageAlt)
    · rfl

/-- A condition keeps the type that it was given for. -/
theorem typeName_read (name : String) (v : Value) : (read name v).typeName = name := by
  rcases read_cases name v with ⟨-, same⟩ | ⟨kind, reason, rfl, -, same⟩ |
    ⟨kind, r, rfl, valid, same⟩
  · rw [same]; rfl
  · rw [same]; rfl
  · rw [same]
    change r.kind.type.name = kind.type.name
    rw [Requirement.kind_of_read (requirement_eq_ok.mp valid).1]

/-- A condition is written as it was given or, if it could be used, by its parameters. -/
theorem write_read_cases (name : String) (v : Value) :
    (read name v).write = v ∨ ∃ r : Requirement, (read name v).write = r.write := by
  rcases read_cases name v with ⟨-, same⟩ | ⟨kind, reason, -, -, same⟩ | ⟨kind, r, -, -, same⟩
  · exact .inl (by rw [same]; rfl)
  · exact .inl (by rw [same]; rfl)
  · exact .inr ⟨r, by rw [same]; rfl⟩

/-- What was given as an object is written as one. -/
theorem exists_write_read (name : String) (ms : List (String × Value)) :
    ∃ ms', (read name (.object ms)).write = .object ms' := by
  rcases write_read_cases name (.object ms) with same | ⟨r, same⟩
  · exact ⟨ms, same⟩
  · obtain ⟨ms', write, -⟩ := r.exists_write
    exact ⟨ms', same.trans write⟩

theorem sorted_write_read (sorted : v.Sorted) (name : String) : (read name v).write.Sorted := by
  rcases write_read_cases name v with same | ⟨r, same⟩
  · rwa [same]
  · rw [same]
    exact r.sorted_write

theorem fits_write_read (fits : v.Fits (budget + 1)) (name : String) :
    (read name v).write.Fits (budget + 1) := by
  rcases write_read_cases name v with same | ⟨r, same⟩
  · rwa [same]
  · rw [same]
    exact r.fits_write budget

/-- A condition is read from its written form as itself. -/
theorem read_write_read (name : String) (v : Value) :
    read name (read name v).write = read name v := by
  rcases read_cases name v with ⟨-, same⟩ | ⟨kind, reason, -, -, same⟩ |
    ⟨kind, r, rfl, valid, same⟩
  -- what cannot be used is written as it was given
  · exact congrArg (read name) (congrArg write same)
  · exact congrArg (read name) (congrArg write same)
  · obtain ⟨given, sound⟩ := requirement_eq_ok.mp valid
    obtain rfl := Requirement.kind_of_read given
    rw [same]
    exact read_eq_valid_iff.mpr ⟨Requirement.read_write r, sound⟩

/-- No float is written that is not finite, unless it was given. -/
theorem isFinite_of_holds_write (holds : (read name v).write.Holds x) :
    x.isFinite ∨ v.Holds x := by
  rcases read_cases name v with ⟨-, same⟩ | ⟨kind, reason, -, -, same⟩ |
    ⟨kind, r, -, valid, same⟩
  · rw [same] at holds
    exact .inr holds
  · rw [same] at holds
    exact .inr holds
  · rw [same] at holds
    obtain ⟨-, sound⟩ := requirement_eq_ok.mp valid
    exact .inl (Requirement.isFinite_of_validate sound (Requirement.mem_floats_of_holds holds))

/-- Whatever is given for a rule of whatever type, the condition keeps the type, has a written form,
whose floats JSON has numerals for if it had them for what was given, and is read from the written
form as itself. -/
theorem read_withstands_writing (name : String) (v : Value) :
    (read name v).typeName = name ∧
      (∀ x, (read name v).write.Holds x → x.isFinite ∨ v.Holds x) ∧
      read name (read name v).write = read name v :=
  ⟨typeName_read name v, fun _ holds => isFinite_of_holds_write holds, read_write_read name v⟩

/-- A condition is read from what has become of its text as itself if and only if the text is still
the same. -/
theorem read_reread_iff (reread : (read name v).write.reread? = some w) :
    read name w = read name v ↔ w = (read name v).write := by
  rcases read_cases name v with ⟨unlisted, same⟩ | ⟨kind, reason, rfl, invalid, same⟩ |
    ⟨kind, r, rfl, valid, same⟩
  · rw [same]
    constructor
    · intro again
      rcases read_cases name w with ⟨-, same'⟩ | ⟨kind, _, listed, -, -⟩ | ⟨kind, _, listed, -, -⟩
      · rw [same'] at again
        cases again
        rfl
      · exact absurd listed (unlisted kind)
      · exact absurd listed (unlisted kind)
    · rintro rfl
      exact same
  · rw [same]
    constructor
    · intro again
      rw [read_name, readAs] at again
      split at again
      · cases again
      · cases again
        rfl
    · rintro rfl
      exact same
  · obtain ⟨given, sound⟩ := requirement_eq_ok.mp valid
    obtain rfl := Requirement.kind_of_read given
    rw [same] at reread ⊢
    constructor
    · intro again
      exact Requirement.eq_write_of_read reread (read_eq_valid_iff.mp again).1
    · rintro rfl
      exact read_eq_valid_iff.mpr ⟨Requirement.read_write r, sound⟩

end Condition

end CanvasLint
