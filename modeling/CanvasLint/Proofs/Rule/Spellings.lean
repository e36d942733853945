import CanvasLint.Proofs.Json.ReadValues
import CanvasLint.Proofs.Json.Records
import CanvasLint.Proofs.Rule.ConditionText
import Mathlib.Data.List.Find

/-! Fields with two spellings. It does not matter by which of them a field is given, whatever else an
object holds, and although the members come in another order with the other spelling. But no field
may be given by both. -/
namespace CanvasLint

open Json (Form Mismatch Ordered Record Slot Value gather)

variable {kind : RuleKind} {ms : List (String × Value)} {r : Requirement} {a b : String}
  {chosen : String → Bool}

namespace RuleKind

/-- The fields of a kind of rule that have two spellings. -/
def spellings : RuleKind → List (String × String)
  | fontSize => [("minSize", "min_px"), ("maxSize", "max_px")]
  | colorContrast => [("minContrast", "min_ratio")]
  | elementSize => [("min_width", "minWidth"), ("min_height", "minHeight")]
  | requiredText | requiredComponent | componentPresence | labelPresence | textUniqueness
  | headingPresence | altTextPresence | elementAlignment | spacing | imageAlt => []

/-- The two spellings of some field, whichever kind of rule has it. -/
def allSpellings : List (String × String) :=
  [fontSize, colorContrast, elementSize].flatMap spellings

/-- The other spelling of a field. -/
def otherSpelling? (key : String) : Option String :=
  allSpellings.findSome? fun pair =>
    if key = pair.1 then some pair.2 else if key = pair.2 then some pair.1 else none

/-- The other spelling, if it is to be used and there is one. -/
def respell (chosen : String → Bool) (key : String) : String :=
  if chosen key then (otherSpelling? key).getD key else key

/-- The object with some of its keys spelled the other way, in order again. -/
def respelled (chosen : String → Bool) (ms : List (String × Value)) : List (String × Value) :=
  gather [] (ms.map fun m => (respell chosen m.1, m.2))

/-- No field of the rule is given under two spellings. -/
def GivenOnce (kind : RuleKind) (ms : List (String × Value)) : Prop :=
  ∀ pair ∈ kind.spellings, ¬ (pair.1 ∈ ms.map Prod.fst ∧ pair.2 ∈ ms.map Prod.fst)

instance (kind : RuleKind) (ms : List (String × Value)) : Decidable (kind.GivenOnce ms) :=
  inferInstanceAs (Decidable (∀ pair ∈ kind.spellings, ¬ _))

theorem mem_allSpellings {pair : String × String} (own : pair ∈ kind.spellings) :
    pair ∈ allSpellings := by
  cases kind with
  | fontSize | colorContrast | elementSize =>
    exact List.mem_flatMap.mpr ⟨_, by decide, own⟩
  | _ => cases own

/-- No spelling is used for two fields. -/
theorem allSpellings_apart : ∀ p ∈ allSpellings, ∀ q ∈ allSpellings,
    p.1 ≠ q.2 ∧ (p.1 = q.1 → p = q) ∧ (p.2 = q.2 → p = q) := by
  decide

theorem respell_cases (chosen : String → Bool) (key : String) : respell chosen key = key ∨
    ∃ pair ∈ allSpellings, (key = pair.1 ∧ respell chosen key = pair.2) ∨
      (key = pair.2 ∧ respell chosen key = pair.1) := by
  rw [respell]
  split
  · cases other : otherSpelling? key with
    | none => exact .inl rfl
    | some spelling =>
      obtain ⟨pair, listed, found⟩ := List.exists_of_findSome?_eq_some other
      refine .inr ⟨pair, listed, ?_⟩
      split at found
      · rename_i first
        exact .inl ⟨first, (Option.some.inj found).symm⟩
      · split at found
        · rename_i second
          exact .inr ⟨second, (Option.some.inj found).symm⟩
        · cases found
  · exact .inl rfl

/-- Keys that become the same are the spellings of one field. -/
theorem eq_or_of_respell_eq (same : respell chosen a = respell chosen b) : a = b ∨
    ∃ pair ∈ allSpellings, (a = pair.1 ∧ b = pair.2) ∨ (a = pair.2 ∧ b = pair.1) := by
  rcases respell_cases chosen a with kept | ⟨p, listed, changed⟩
  · rcases respell_cases chosen b with kept' | ⟨q, listed', changed'⟩
    · exact .inl (kept.symm.trans (same.trans kept'))
    · refine .inr ⟨q, listed', ?_⟩
      rw [← kept, same]
      exact changed'.elim (fun h => .inr ⟨h.2, h.1⟩) fun h => .inl ⟨h.2, h.1⟩
  · rcases respell_cases chosen b with kept' | ⟨q, listed', changed'⟩
    · refine .inr ⟨p, listed, ?_⟩
      rw [← kept', ← same]
      exact changed
    · -- both are spelled the other way, so they were the same before
      left
      obtain ⟨notCrossed, firsts, seconds⟩ := allSpellings_apart p listed q listed'
      have notCrossed' := (allSpellings_apart q listed' p listed).1
      rw [same] at changed
      rcases changed with ⟨rfl, second⟩ | ⟨rfl, first⟩ <;>
        rcases changed' with ⟨rfl, second'⟩ | ⟨rfl, first'⟩
      · rw [seconds (second.symm.trans second')]
      · exact absurd (first'.symm.trans second) notCrossed'
      · exact absurd (first.symm.trans second') notCrossed
      · rw [firsts (first.symm.trans first')]

end RuleKind

/-! ### Records of parameters -/

namespace Requirement

theorem orderly_oneField {α : Type} {title name : String} {aliases : List String}
    {read : Value → Except Mismatch α} : (oneField title name aliases read).Orderly where
  taken slot listed v draft draft' filled := by
    obtain rfl := List.mem_singleton.mp listed
    obtain ⟨a, -, rfl⟩ := Slot.of_fill_eq_ok.mp filled
    rfl
  apart := List.pairwise_singleton _ _

theorem orderly_twoFields {α β : Type} {title : String}
    {first : String × List String × (Value → Except Mismatch α)}
    {second : String × List String × (Value → Except Mismatch β)} :
    (twoFields title first second).Orderly where
  taken _ listed v draft draft' filled := by
    rcases List.mem_pair.mp listed with rfl | rfl
    · obtain ⟨a, -, rfl⟩ := Slot.of_fill_eq_ok.mp filled
      rfl
    · obtain ⟨b, -, rfl⟩ := Slot.of_fill_eq_ok.mp filled
      rfl
  apart := List.pairwise_pair.mpr
    (Slot.apart_of (fun _ _ => rfl) (fun _ _ => rfl) fun _ _ _ => rfl)

theorem orderly_imageRecord : imageRecord.Orderly where
  taken _ listed := absurd listed List.not_mem_nil
  apart := List.Pairwise.nil

/-- The parameters of a kind of rule are what becomes of a record, and the record has a field for
both spellings or for neither. -/
structure TakenFrom (kind : RuleKind) {σ : Type} (record : Record σ) : Prop where
  orderly : record.Orderly
  alike : ∀ pair ∈ RuleKind.allSpellings, ∀ slot ∈ record.slots,
    slot.answers pair.1 = slot.answers pair.2
  own : ∀ pair ∈ RuleKind.allSpellings,
    (record.slot? pair.1).isSome = true ↔ pair ∈ kind.spellings
  read : ∃ finish : σ × Form → Except Mismatch Requirement,
    ∀ v, Requirement.read kind v = record.read v >>= finish

/-- Every kind of rule has such a record. -/
theorem exists_takenFrom (kind : RuleKind) :
    ∃ (σ : Type) (record : Record σ), TakenFrom kind record := by
  cases kind with
  | requiredText => exact ⟨_, textRecord, orderly_twoFields, by decide, by decide, _, fun v => rfl⟩
  | fontSize => exact ⟨_, fontSizeRecord, orderly_twoFields, by decide, by decide, _, fun v => rfl⟩
  | colorContrast =>
    exact ⟨_, contrastRecord, orderly_oneField, by decide, by decide, _, fun v => rfl⟩
  | requiredComponent =>
    exact ⟨_, componentRecord, orderly_oneField, by decide, by decide, _, fun v => rfl⟩
  | componentPresence =>
    exact ⟨_, presenceRecord, orderly_oneField, by decide, by decide, _, fun v => rfl⟩
  | elementSize => exact ⟨_, sizeRecord, orderly_twoFields, by decide, by decide, _, fun v => rfl⟩
  | labelPresence => exact ⟨_, labelRecord, orderly_oneField, by decide, by decide, _, fun v => rfl⟩
  | textUniqueness =>
    exact ⟨_, uniquenessRecord, orderly_oneField, by decide, by decide, _, fun v => rfl⟩
  | headingPresence =>
    exact ⟨_, headingRecord, orderly_oneField, by decide, by decide, _, fun v => rfl⟩
  | altTextPresence =>
    exact ⟨_, altTextRecord, orderly_oneField, by decide, by decide, _, fun v => rfl⟩
  | elementAlignment =>
    exact ⟨_, alignmentRecord, orderly_twoFields, by decide, by decide, _, fun v => rfl⟩
  | spacing => exact ⟨_, spacingRecord, orderly_twoFields, by decide, by decide, _, fun v => rfl⟩
  | imageAlt => exact ⟨_, imageRecord, orderly_imageRecord, by decide, by decide, _, fun v => rfl⟩

variable {σ : Type} {record : Record σ}

theorem TakenFrom.slot?_eq (taken : TakenFrom kind record) {pair : String × String}
    (listed : pair ∈ RuleKind.allSpellings) : record.slot? pair.1 = record.slot? pair.2 :=
  List.find?_congr (taken.alike pair listed)

theorem TakenFrom.slot?_respell (taken : TakenFrom kind record) (chosen : String → Bool)
    (key : String) : record.slot? (RuleKind.respell chosen key) = record.slot? key := by
  rcases RuleKind.respell_cases chosen key with kept | ⟨pair, listed, changed⟩
  · rw [kept]
  · rcases changed with ⟨rfl, other⟩ | ⟨rfl, other⟩
    · rw [other, taken.slot?_eq listed]
    · rw [other, taken.slot?_eq listed]

/-- If no field is given under two spellings, then none is given twice after some have been spelled
the other way. -/
theorem TakenFrom.distinct (taken : TakenFrom kind record) (ordered : Ordered ms)
    (once : kind.GivenOnce ms) (chosen : String → Bool) :
    ((record.answered (ms.map fun m => (RuleKind.respell chosen m.1, m.2))).map Prod.fst).Nodup := by
  have keys : (ms.map Prod.fst).Nodup := ordered.imp fun before => before.ne
  rw [Record.answered, List.filter_map, List.map_map]
  refine List.Nodup.map_on ?_ (keys.of_map.sublist List.filter_sublist)
  intro m member n member' same
  obtain ⟨listed, known⟩ := List.mem_filter.mp member
  have listed' : n ∈ ms := (List.mem_filter.mp member').1
  rcases RuleKind.eq_or_of_respell_eq same with sameKey | ⟨pair, both, crossed⟩
  · exact List.inj_on_of_nodup_map keys listed listed' sameKey
  · -- both spellings of a field that the rule has
    rw [Function.comp_apply, taken.slot?_respell] at known
    have given : m.1 ∈ ms.map Prod.fst := List.mem_map_of_mem listed
    have given' : n.1 ∈ ms.map Prod.fst := List.mem_map_of_mem listed'
    rcases crossed with ⟨first, second⟩ | ⟨second, first⟩
    · rw [first] at known given
      rw [second] at given'
      exact absurd ⟨given, given'⟩ (once pair ((taken.own pair both).mp known))
    · rw [second] at known given
      rw [← taken.slot?_eq both] at known
      rw [first] at given'
      exact absurd ⟨given', given⟩ (once pair ((taken.own pair both).mp known))

theorem read_eq_ok_respelled (ordered : Ordered ms) (once : kind.GivenOnce ms)
    (chosen : String → Bool) : read kind (.object (RuleKind.respelled chosen ms)) = .ok r ↔
      read kind (.object ms) = .ok r := by
  obtain ⟨σ, record, taken⟩ := exists_takenFrom kind
  obtain ⟨finish, reads⟩ := taken.read
  rw [reads, reads, Outcome.bind_eq_ok, Outcome.bind_eq_ok]
  refine exists_congr fun outcome => and_congr_left fun _ => ?_
  rw [RuleKind.respelled, taken.orderly.read_object_gather (taken.distinct ordered once chosen),
    Record.read_object_rename (taken.slot?_respell chosen)]

theorem read_ne_ok_of_twice (twice : ¬ kind.GivenOnce ms) : read kind (.object ms) ≠ .ok r := by
  simp only [RuleKind.GivenOnce, not_forall, not_not] at twice
  obtain ⟨pair, own, first, second⟩ := twice
  obtain ⟨m, listed, key⟩ := List.mem_map.mp first
  obtain ⟨n, listed', key'⟩ := List.mem_map.mp second
  obtain ⟨σ, record, taken⟩ := exists_takenFrom kind
  obtain ⟨finish, reads⟩ := taken.read
  have both := RuleKind.mem_allSpellings own
  obtain ⟨slot, known⟩ := Option.isSome_iff_exists.mp ((taken.own pair both).mpr own)
  have known' : record.slot? pair.2 = some slot := (taken.slot?_eq both).symm.trans known
  have different : n ≠ m := by
    rintro rfl
    exact (RuleKind.allSpellings_apart pair both pair both).1 (key.symm.trans key')
  rw [reads]
  intro done
  obtain ⟨outcome, gathered, -⟩ := Outcome.bind_eq_ok.mp done
  exact taken.orderly.read_object_ne_ok (key ▸ known) (key' ▸ known') listed listed' different
    outcome gathered

end Requirement

/-! ### Conditions -/

namespace Condition

/-- A condition is the same with some of its fields spelled the other way, and it cannot be used if
it gives a field by both of its spellings. -/
theorem read_respelled (ordered : Ordered ms) (chosen : String → Bool) :
    (kind.GivenOnce ms → ∀ r,
      read kind.type.name (.object (RuleKind.respelled chosen ms)) = .valid r ↔
        read kind.type.name (.object ms) = .valid r) ∧
    (¬ kind.GivenOnce ms → ∃ reason,
      read kind.type.name (.object ms) = .invalid kind reason (.object ms)) := by
  constructor
  · intro once r
    rw [read_eq_valid_iff, read_eq_valid_iff, Requirement.read_eq_ok_respelled ordered once]
  · intro twice
    rw [read_name, readAs]
    cases outcome : requirement kind (.object ms) with
    | error reason => exact ⟨reason, rfl⟩
    | ok r =>
      exact absurd (requirement_eq_ok.mp outcome).1 (Requirement.read_ne_ok_of_twice twice)

/-- The least size of elements, and a field of another kind of rule that means nothing here. -/
def leastSize : List (String × Value) :=
  [("max_px", .string "large"), ("minWidth", .nat 44), ("min_height", .nat 40)]

/-- With the other spellings the height comes before the width. -/
theorem read_respelled_leastSize :
    let others : List (String × Value) :=
      [("maxSize", .string "large"), ("minHeight", .nat 40), ("min_width", .nat 44)]
    let doubled := leastSize ++ [("min_width", .nat 44)]
    RuleKind.respelled (fun _ => true) leastSize = others ∧
      read "element-size" (.object leastSize) = .valid (.elementSize ⟨44, 40⟩) ∧
      read "element-size" (.object others) = .valid (.elementSize ⟨44, 40⟩) ∧
      ∃ reason, read "element-size" (.object doubled) =
        .invalid .elementSize reason (.object doubled) := by
  intro others doubled
  have respelled : RuleKind.respelled (fun _ => true) leastSize = others := by rfl
  have usual : read "element-size" (.object leastSize) = .valid (.elementSize ⟨44, 40⟩) := by rfl
  have once : RuleKind.elementSize.GivenOnce leastSize := by decide
  have twice : ¬ RuleKind.elementSize.GivenOnce doubled := by decide
  have same := (read_respelled (by decide) fun _ => true).1 once (.elementSize ⟨44, 40⟩)
  rw [respelled] at same
  exact ⟨respelled, usual, same.mpr usual, (read_respelled (by decide) fun _ => true).2 twice⟩

end Condition

end CanvasLint
