import CanvasLint.Canvas.Document

/-!
The elements that a scan looks at: the selected elements with everything below them, each element
once. A subtree is not entered again when its top has been met.
-/
namespace CanvasLint.Canvas

/-- How far a walk over a document has come: the ids that it has met and the elements that it has
listed. -/
structure Walk where
  met : List NodeId
  found : List Node

namespace Document

variable {d : Document} {met met' : List NodeId} {id : NodeId} {n : Node}

/-- The ids that a walk may still meet. Every step into a subtree takes one of them away. -/
def unmet (d : Document) (met : List NodeId) : List NodeId :=
  d.index.keys.filter (· ∉ met)

theorem length_unmet_le (more : met ⊆ met') : (d.unmet met').length ≤ (d.unmet met).length := by
  have less : d.unmet met' = (d.unmet met).filter (· ∉ met') := by
    rw [unmet, unmet, List.filter_filter]
    refine List.filter_congr fun id _ => ?_
    by_cases old : id ∈ met
    · simp [old, more old]
    · simp [old]
  rw [less]
  exact List.length_filter_le _ _

theorem length_unmet_lt (known : d.resolve? id = some n) (new : id ∉ met) :
    (d.unmet (id :: met)).length < (d.unmet met).length := by
  have less : d.unmet (id :: met) = (d.unmet met).filter (· ≠ id) := by
    rw [unmet, unmet, List.filter_filter]
    refine List.filter_congr fun id' _ => ?_
    by_cases same : id' = id <;> simp [same]
  have listed : id ∈ d.index.keys := by
    obtain ⟨i, found, -⟩ := Option.bind_eq_some_iff.mp known
    rw [Std.TreeMap.mem_keys, Std.TreeMap.mem_iff_isSome_getElem?, found]
    rfl
  rw [less, List.length_filter_lt_length_iff_exists]
  exact ⟨id, List.mem_filter.mpr ⟨listed, by simpa using new⟩, by simp⟩

mutual

/-- Goes on to an element and everything below it. An id that has been met or that no element has is
passed over. -/
def visit (d : Document) (w : Walk) (id : NodeId) : { w' : Walk // w.met ⊆ w'.met } :=
  if _ : id ∈ w.met then ⟨w, List.Subset.refl _⟩
  else
    match _ : d.resolve? id with
    | none => ⟨w, List.Subset.refl _⟩
    | some n =>
      let below := d.visitAll ⟨id :: w.met, w.found ++ [n]⟩ ((d.childrenOf id).getD [])
      ⟨below.1, fun _ member => below.2 (List.mem_cons_of_mem _ member)⟩
termination_by ((d.unmet w.met).length, 0)
decreasing_by exact .left _ _ (length_unmet_lt ‹_› ‹_›)

def visitAll (d : Document) (w : Walk) : List NodeId → { w' : Walk // w.met ⊆ w'.met }
  | [] => ⟨w, List.Subset.refl _⟩
  | id :: ids =>
    let first := d.visit w id
    let rest := d.visitAll first.1 ids
    ⟨rest.1, fun _ member => rest.2 (first.2 member)⟩
termination_by ids => ((d.unmet w.met).length, ids.length + 1)
decreasing_by
  · exact .right _ (Nat.succ_pos _)
  · exact Prod.Lex.right' _ (length_unmet_le first.2) (Nat.lt_succ_self _)

end

/-- The given elements and everything below them, in the order in which they are met. -/
def collect (d : Document) (ids : List NodeId) : List Node :=
  (d.visitAll ⟨[], []⟩ ids).1.found

end Document

end CanvasLint.Canvas
