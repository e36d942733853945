import CanvasLint.Proofs.Canvas.Views
import CanvasLint.Proofs.Number.FloatValue

/-! Which snapshots make a document, and what is said of those that do not. The elements are taken
in the order of the listing, so that the first one which cannot stand beside those before it settles
the matter; the selection is looked at only if there is none. -/
namespace CanvasLint.Canvas

open Number (FiniteNonneg)

variable {s : Snapshot} {ns before : List Node} {n : Node} {ts : List Tree} {taken : List NodeId}
  {selection : Option (List NodeId)} {id : NodeId} {e : DocumentError}

/-- Elements that can stand in one document. -/
structure Compatible (ns : List Node) : Prop where
  distinct : (ns.map Node.id).Nodup
  extents : ∀ n ∈ ns, FiniteNonneg n.width ∧ FiniteNonneg n.height

/-- Why an element cannot stand behind others. Its size counts only if its id is new. -/
inductive Offends (before : List Node) (n : Node) : DocumentError → Prop
  | duplicate (used : n.id ∈ before.map Node.id) : Offends before n (.duplicateId n.id)
  | size (new : n.id ∉ before.map Node.id) (bad : ¬ (FiniteNonneg n.width ∧ FiniteNonneg n.height)) :
      Offends before n (.invalidSize n.id n.width n.height)

/-- Why elements with a selection of them do not make a document: the first element that cannot
stand behind those before it, or else the first selected id that no element has. -/
inductive Refused (ns : List Node) (selection : Option (List NodeId)) : DocumentError → Prop
  | element {before n after e} (place : ns = before ++ n :: after) (fine : Compatible before)
      (offends : Offends before n e) : Refused ns selection e
  | selected {before id after} (fine : Compatible ns)
      (place : selection = some (before ++ id :: after))
      (known : ∀ i ∈ before, i ∈ ns.map Node.id) (unknown : id ∉ ns.map Node.id) :
      Refused ns selection (.unknownSelection id)

/-! ### The first fault -/

theorem validExtent_iff {x : Float} : validExtent x = true ↔ FiniteNonneg x :=
  Number.isFinite_and_nonneg_iff

theorem fault?_eq_some_iff : fault? (before.map Node.id) n = some e ↔ Offends before n e := by
  have extents : (validExtent n.width && validExtent n.height) = true ↔
      FiniteNonneg n.width ∧ FiniteNonneg n.height := by
    rw [Bool.and_eq_true, validExtent_iff, validExtent_iff]
  rw [fault?]
  -- a used id settles it whatever the size is
  by_cases used : n.id ∈ before.map Node.id
  · rw [if_pos used, Option.some.injEq]
    constructor
    · rintro rfl
      exact .duplicate used
    · rintro (_ | ⟨new, _⟩)
      · rfl
      · exact absurd used new
  · rw [if_neg used]
    by_cases fine : FiniteNonneg n.width ∧ FiniteNonneg n.height
    · rw [if_pos (extents.mpr fine)]
      constructor
      · intro none
        cases none
      · rintro (old | ⟨_, bad⟩)
        · exact absurd old used
        · exact absurd fine bad
    · rw [if_neg (mt extents.mp fine), Option.some.injEq]
      constructor
      · rintro rfl
        exact .size used fine
      · rintro (old | _)
        · exact absurd old used
        · rfl

/-- The fault that is reported is that of an element with none before it. -/
theorem firstFault_eq_some_iff : firstFault taken ns = some e ↔ ∃ before n after,
    ns = before ++ n :: after ∧ firstFault taken before = none ∧
      fault? (taken ++ before.map Node.id) n = some e := by
  induction ns generalizing taken with
  | nil => simp [firstFault]
  | cons m ns ih =>
    rw [firstFault, Option.or_eq_some_iff, ih]
    constructor
    · rintro (first | ⟨fine, before, n, after, rfl, earlier, fault⟩)
      · exact ⟨[], m, ns, rfl, rfl, by rwa [List.map_nil, List.append_nil]⟩
      · refine ⟨m :: before, n, after, rfl, ?_, ?_⟩
        · rw [firstFault, fine, Option.none_or, earlier]
        · rwa [List.map_cons, List.append_cons]
    · rintro ⟨before, n, after, split, earlier, fault⟩
      cases before with
      | nil =>
        cases split
        rw [List.map_nil, List.append_nil] at fault
        exact .inl fault
      | cons m' before =>
        cases split
        rw [firstFault, Option.or_eq_none_iff] at earlier
        refine .inr ⟨earlier.1, before, n, after, rfl, earlier.2, ?_⟩
        rwa [List.map_cons, List.append_cons] at fault

theorem firstFault_nil_eq_none_iff : firstFault [] ns = none ↔ Compatible ns := by
  rw [firstFault_eq_none_iff]
  simp only [validExtent_iff]
  exact ⟨fun ⟨distinct, _, extents⟩ => ⟨distinct, extents⟩,
    fun ⟨distinct, extents⟩ => ⟨distinct, fun _ _ => List.not_mem_nil, extents⟩⟩

theorem firstFault_nil_eq_some_iff : firstFault [] ns = some e ↔
    ∃ before n after, ns = before ++ n :: after ∧ Compatible before ∧ Offends before n e := by
  simp only [firstFault_eq_some_iff, firstFault_nil_eq_none_iff, List.nil_append,
    fault?_eq_some_iff]

/-- Either an element is at fault or the selection is. -/
theorem refused_iff : Refused ns selection e ↔ firstFault [] ns = some e ∨
    firstFault [] ns = none ∧ ∃ before id after, selection = some (before ++ id :: after) ∧
      (∀ i ∈ before, i ∈ ns.map Node.id) ∧ id ∉ ns.map Node.id ∧ e = .unknownSelection id := by
  rw [firstFault_nil_eq_some_iff, firstFault_nil_eq_none_iff]
  constructor
  · rintro (⟨place, fine, offends⟩ | ⟨fine, place, known, unknown⟩)
    · exact .inl ⟨_, _, _, place, fine, offends⟩
    · exact .inr ⟨fine, _, _, _, place, known, unknown, rfl⟩
  · rintro (⟨before, n, after, place, fine, offends⟩ |
      ⟨fine, before, id, after, place, known, unknown, rfl⟩)
    · exact .element place fine offends
    · exact .selected fine place known unknown

namespace Document

/-! ### What comes of a snapshot -/

theorem ofSnapshot_of_fault (fault : firstFault [] (nodesOfAll s.trees) = some e) :
    ofSnapshot s = .error e := by
  rw [ofSnapshot_eq, fault]
  rfl

/-- Where no element is at fault, the selection decides. -/
theorem ofSnapshot_of_clean (clean : firstFault [] (nodesOfAll s.trees) = none) :
    ofSnapshot s = match s.selection with
      | none => .ok (ofForest s.trees (s.trees.map (·.content.id)))
      | some ids => (ofForest s.trees (s.trees.map (·.content.id))).select ids := by
  rw [ofSnapshot_eq, clean]
  cases s.selection <;> rfl

theorem mem_index_ofForest (clean : firstFault [] (nodesOfAll ts) = none) :
    id ∈ (ofForest ts (ts.map (·.content.id))).index ↔ id ∈ idsOfAll ts := by
  have made : ofSnapshot ⟨none, ts⟩ = .ok (ofForest ts (ts.map (·.content.id))) :=
    ofSnapshot_of_clean (s := ⟨none, ts⟩) clean
  exact (Sound.of_ofSnapshot made).mem_index_iff

theorem exists_ofSnapshot_iff : (∃ d, ofSnapshot s = .ok d) ↔ Compatible (nodesOfAll s.trees) ∧
    ∀ ids, s.selection = some ids → ids ⊆ idsOfAll s.trees := by
  rw [← firstFault_nil_eq_none_iff]
  cases clean : firstFault [] (nodesOfAll s.trees) with
  | some e => simp [ofSnapshot_of_fault clean]
  | none =>
    rw [ofSnapshot_of_clean clean]
    cases s.selection with
    | none => simp
    | some ids =>
      simp only [select_eq_ok_iff, mem_index_ofForest clean, true_and, Option.some.injEq,
        forall_eq', exists_and_left, exists_eq, and_true]
      exact .rfl

theorem ofSnapshot_eq_error_iff :
    ofSnapshot s = .error e ↔ Refused (nodesOfAll s.trees) s.selection e := by
  rw [refused_iff]
  cases clean : firstFault [] (nodesOfAll s.trees) with
  | some e' => simp [ofSnapshot_of_fault clean]
  | none =>
    rw [ofSnapshot_of_clean clean]
    cases s.selection with
    | none => simp
    | some ids =>
      simp only [select_eq_error_iff, mem_index_ofForest clean, reduceCtorEq, false_or, true_and,
        Option.some.injEq]
      exact .rfl

/-- A snapshot makes a document if its elements can stand in one and its selection, if it gives one,
names elements only. Any other is refused for the first element that cannot stand behind those
before it, or else for the first selected id that no element has. -/
theorem ofSnapshot_settled (s : Snapshot) : ∃ ns, PreOrder s.trees ns ∧
    ((∃ d, ofSnapshot s = .ok d) ↔ Compatible ns ∧
      ∀ ids, s.selection = some ids → ids ⊆ ns.map Node.id) ∧
    ∀ e, ofSnapshot s = .error e ↔ Refused ns s.selection e :=
  ⟨nodesOfAll s.trees, preOrder_nodesOfAll s.trees, exists_ofSnapshot_iff,
    fun _ => ofSnapshot_eq_error_iff⟩

/-- The card has a used id and no proper size, and what is selected is not there. -/
example : ofSnapshot ⟨some ["gone"], [
    .node { id := "page", kind := .frame } (some [
      .node { id := "page", name := "Card", kind := .group, width := -4 } none none]) none]⟩ =
        .error (.duplicateId "page") := by
  rfl

end Document

end CanvasLint.Canvas
