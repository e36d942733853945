import CanvasLint.Canvas.Document
import CanvasLint.Proofs.Canvas.Forest

/-! How a document is filled. One pass over a forest stops at the first element that cannot be
taken; if there is none, it leaves in the tables what the listings of the forest say, whatever they
held before. So all that is known of a document is known from its forest. -/
namespace CanvasLint.Canvas

variable {d : Document} {e : Element} {m parent : Option NodeId} {ts cs : List Tree}
  {ns ns' : List Node} {taken : List NodeId} {id : NodeId}

/-- What is wrong with an element where these ids are taken. Of two faults the id counts. -/
def fault? (taken : List NodeId) (n : Node) : Option DocumentError :=
  if n.id ∈ taken then some (.duplicateId n.id)
  else if validExtent n.width && validExtent n.height then none
  else some (.invalidSize n.id n.width n.height)

/-- What is wrong with the first element that cannot be taken. -/
def firstFault (taken : List NodeId) : List Node → Option DocumentError
  | [] => none
  | n :: ns => (fault? taken n).or (firstFault (taken ++ [n.id]) ns)

theorem firstFault_append : firstFault taken (ns ++ ns') =
    (firstFault taken ns).or (firstFault (taken ++ ns.map Node.id) ns') := by
  induction ns generalizing taken with
  | nil => simp [firstFault]
  | cons n ns ih =>
    rw [List.cons_append, firstFault, firstFault, ih, Option.or_assoc, List.map_cons,
      List.append_assoc, List.singleton_append]

private theorem fault?_eq_none_iff {n : Node} : fault? taken n = none ↔
    n.id ∉ taken ∧ validExtent n.width ∧ validExtent n.height := by
  rw [fault?, ← Bool.and_eq_true]
  by_cases old : n.id ∈ taken
  · simp [old]
  · rw [if_neg old]
    split <;> simp_all

/-- No element is at fault if their ids are new and distinct and all sizes make sense. -/
theorem firstFault_eq_none_iff : firstFault taken ns = none ↔
    (ns.map Node.id).Nodup ∧ (∀ n ∈ ns, n.id ∉ taken) ∧
      ∀ n ∈ ns, validExtent n.width ∧ validExtent n.height := by
  induction ns generalizing taken with
  | nil => simp [firstFault]
  | cons n ns ih =>
    rw [firstFault, Option.or_eq_none_iff, fault?_eq_none_iff, ih]
    simp only [List.map_cons, List.nodup_cons, List.mem_map, List.forall_mem_cons, List.mem_append,
      List.mem_singleton, not_or, forall_and, not_exists, not_and]
    constructor
    · rintro ⟨⟨new, width, height⟩, distinct, ⟨others, apart⟩, widths, heights⟩
      exact ⟨⟨apart, distinct⟩, ⟨new, others⟩, ⟨width, widths⟩, height, heights⟩
    · rintro ⟨⟨apart, distinct⟩, ⟨new, others⟩, ⟨width, widths⟩, height, heights⟩
      exact ⟨⟨new, width, height⟩, distinct, ⟨others, apart⟩, widths, heights⟩

/-- The outcome of a step that fails only at a fault. -/
def unlessFault {α : Type} : Option DocumentError → α → Except DocumentError α
  | some fault, _ => .error fault
  | none, a => .ok a

theorem unlessFault_eq_ok {α : Type} {fault : Option DocumentError} {a b : α} :
    unlessFault fault a = .ok b ↔ fault = none ∧ a = b := by
  cases fault <;> simp [unlessFault]

namespace Document

/-- The document with a forest added behind everything else, its tops below the parent if there is
one. -/
def extend (d : Document) (parent : Option NodeId) (ts : List Tree) : Document :=
  { d with
    arena := d.arena ++ nodesOfAll ts
    index := d.index.insertMany ((idsOfAll ts).zipIdx d.arena.size)
    parents := d.parents.insertMany (linksOfAll parent ts)
    children := d.children.insertMany (childListsOfAll ts)
    components := d.components.insertMany (componentsOfAll ts) }

/-- The document after the children of an element have been entered. -/
def withChildren (d : Document) (id : NodeId) (ids : List NodeId) : Document :=
  { d with children := d.children.insert id ids }

private theorem enter_eq {α : Type} (table : Std.TreeMap NodeId α) (a : Option α) :
    enter table id a = table.insertMany (pairWith id a) := by
  cases a with
  | none => exact Std.TreeMap.insertMany_nil.symm
  | some a => exact Std.TreeMap.insertMany_list_singleton.symm

theorem extend_nil : d.extend parent [] = d := by
  simp [extend, linksOfAll, childListsOfAll, componentsOfAll]

theorem extend_leaf : d.extend parent (.node e none m :: ts) =
    (d.place e parent m).extend parent ts := by
  simp only [extend, place, enter_eq, linksOfAll, childListsOfAll, componentsOfAll, Tree.links,
    Tree.childLists, Tree.components, Std.TreeMap.insertMany_append, idsOfAll_leaf, List.zipIdx_cons,
    Std.TreeMap.insertMany_cons, Array.size_push, List.nil_append]
  simp

theorem extend_inner : d.extend parent (.node e (some cs) m :: ts) =
    (((d.place e parent m).extend (some e.id) cs).withChildren e.id
      (cs.map (·.content.id))).extend parent ts := by
  have places (start : Nat) : (idsOfAll cs ++ idsOfAll ts).zipIdx start =
      (idsOfAll cs).zipIdx start ++ (idsOfAll ts).zipIdx (start + (nodesOfAll cs).length) := by
    rw [List.zipIdx_append, idsOfAll, List.length_map]
  have elements : d.arena ++ nodesOfAll (.node e (some cs) m :: ts) =
      d.arena.push e.toNode ++ nodesOfAll cs ++ nodesOfAll ts := by
    apply Array.toList_inj.mp
    simp
  have size : (d.arena.push e.toNode ++ nodesOfAll cs).size =
      d.arena.size + 1 + (nodesOfAll cs).length := by
    rw [← Array.length_toList]
    simp [Nat.add_assoc, Nat.add_comm]
  simp only [extend, place, withChildren, enter_eq, linksOfAll, childListsOfAll, componentsOfAll,
    Tree.links, Tree.childLists, Tree.components, Std.TreeMap.insertMany_append, idsOfAll_inner,
    List.zipIdx_cons, places, Std.TreeMap.insertMany_cons, elements, size, Array.size_push]
  simp

/-! ### One pass -/

private theorem accept_eq (known : ∀ id, id ∈ d.index ↔ id ∈ taken) :
    d.accept e parent m = unlessFault (fault? taken e.toNode) (d.place e parent m) := by
  have taken? : d.index.contains e.id = true ↔ e.toNode.id ∈ taken :=
    Std.TreeMap.mem_iff_contains.symm.trans (known e.id)
  by_cases old : e.toNode.id ∈ taken
  · rw [accept, if_pos (taken?.mpr old), fault?, if_pos old]
    rfl
  · rw [accept, if_neg (mt taken?.mp old), fault?, if_neg old]
    change _ = unlessFault (if validExtent e.width && validExtent e.height then _ else _) _
    split <;> rfl

theorem insertAll_leaf : d.insertAll parent (.node e none m :: ts) =
    (d.accept e parent m >>= fun d' => d'.insertAll parent ts >>= fun rest =>
      .ok (rest.1, e.id :: rest.2)) := by
  rw [insertAll, insert]
  cases d.accept e parent m <;> rfl

theorem insertAll_inner : d.insertAll parent (.node e (some cs) m :: ts) =
    (d.accept e parent m >>= fun d' => d'.insertAll (some e.id) cs >>= fun below =>
      (below.1.withChildren e.id below.2).insertAll parent ts >>= fun rest =>
        .ok (rest.1, e.id :: rest.2)) := by
  rw [insertAll, insert]
  cases d.accept e parent m with
  | error fault => rfl
  | ok d' =>
    change (d'.insertAll (some e.id) cs >>= _) >>= _ = d'.insertAll (some e.id) cs >>= _
    cases d'.insertAll (some e.id) cs <;> rfl

private theorem mem_index_place (known : ∀ id, id ∈ d.index ↔ id ∈ taken) (e : Element)
    (parent m : Option NodeId) (id : NodeId) :
    id ∈ (d.place e parent m).index ↔ id ∈ taken ++ [e.id] := by
  rw [place, Std.TreeMap.mem_insert, known, List.mem_append, List.mem_singleton,
    Std.LawfulEqCmp.compare_eq_iff_eq, or_comm, eq_comm]

private theorem mem_index_extend (known : ∀ id, id ∈ d.index ↔ id ∈ taken)
    (parent : Option NodeId) (ts : List Tree) (id : NodeId) :
    id ∈ (d.extend parent ts).index ↔ id ∈ taken ++ idsOfAll ts := by
  rw [extend, Std.TreeMap.mem_insertMany_list, known, List.mem_append, List.contains_iff_mem]
  simp

/-- A pass over a forest stops at the first fault or adds the whole forest. -/
theorem insertAll_eq (known : ∀ id, id ∈ d.index ↔ id ∈ taken) : d.insertAll parent ts =
    unlessFault (firstFault taken (nodesOfAll ts)) (d.extend parent ts, ts.map (·.content.id)) := by
  induction ts using forest_induction generalizing d parent taken with
  | nil => rw [insertAll, nodesOfAll_nil, firstFault, extend_nil]; rfl
  | leaf e m ts ih =>
    rw [insertAll_leaf, accept_eq known, nodesOfAll_leaf, firstFault]
    cases fault? taken e.toNode with
    | some fault => rfl
    | none =>
      change (d.place e parent m).insertAll parent ts >>= _ = _
      rw [ih (mem_index_place known e parent m), extend_leaf, Option.none_or]
      change _ = unlessFault (firstFault (taken ++ [e.id]) _) _
      cases firstFault (taken ++ [e.id]) (nodesOfAll ts) <;> rfl
  | inner e cs m ts below after =>
    rw [insertAll_inner, accept_eq known, nodesOfAll_inner, firstFault, firstFault_append]
    cases fault? taken e.toNode with
    | some fault => rfl
    | none =>
      have inside := mem_index_place known e parent m
      change (d.place e parent m).insertAll (some e.id) cs >>= _ = _
      rw [below inside, extend_inner, Option.none_or]
      change _ = unlessFault ((firstFault (taken ++ [e.id]) _).or _) _
      cases firstFault (taken ++ [e.id]) (nodesOfAll cs) with
      | some fault => rfl
      | none =>
        rw [Option.none_or]
        change (((d.place e parent m).extend (some e.id) cs).withChildren e.id _).insertAll parent ts
          >>= _ = _
        have filled : ∀ id, id ∈ (((d.place e parent m).extend (some e.id) cs).withChildren e.id
            (cs.map (·.content.id))).index ↔ id ∈ taken ++ [e.id] ++ idsOfAll cs :=
          mem_index_extend inside (some e.id) cs
        rw [after filled]
        change _ = unlessFault (firstFault (taken ++ [e.id] ++ idsOfAll cs) _) _
        cases firstFault (taken ++ [e.id] ++ idsOfAll cs) (nodesOfAll ts) <;> rfl

/-- The document that the listings of a forest describe. -/
def ofForest (ts : List Tree) (selection : List NodeId) : Document :=
  { empty.extend none ts with roots := ts.map (·.content.id), selection }

/-- The document of a snapshot is that of its forest, unless an element cannot be taken or an element
is selected that is not there. -/
theorem ofSnapshot_eq (s : Snapshot) : ofSnapshot s =
    (unlessFault (firstFault [] (nodesOfAll s.trees)) (ofForest s.trees (s.trees.map (·.content.id)))
      >>= fun d => match s.selection with
        | none => .ok d
        | some ids => d.select ids) := by
  have untouched : ∀ id, id ∈ empty.index ↔ id ∈ ([] : List NodeId) := by
    intro id
    simp [empty]
  rw [ofSnapshot, insertAll_eq untouched]
  cases firstFault [] (nodesOfAll s.trees) with
  | some fault => rfl
  | none => cases s.selection <;> rfl

/-! ### Looking into the tables -/

/-- Where no id has two entries, a table answers by what it has been filled with. -/
theorem getElem?_table_iff {α : Type} {entries : List (NodeId × α)} {a : α}
    (single : ∀ id a b, (id, a) ∈ entries → (id, b) ∈ entries → a = b) :
    ((∅ : Std.TreeMap NodeId α).insertMany entries)[id]? = some a ↔ (id, a) ∈ entries := by
  induction entries using List.reverseRecOn with
  | nil => simp
  | append_singleton entries p ih =>
    obtain ⟨key, b⟩ := p
    have known := ih fun id a b first second =>
      single id a b (List.mem_append_left _ first) (List.mem_append_left _ second)
    rw [Std.TreeMap.insertMany_append, Std.TreeMap.insertMany_list_singleton,
      Std.TreeMap.getElem?_insert, List.mem_append, List.mem_singleton, Prod.mk.injEq]
    by_cases same : key = id
    · subst same
      rw [if_pos Std.ReflCmp.compare_self, Option.some.injEq]
      constructor
      · rintro rfl
        exact .inr ⟨rfl, rfl⟩
      · rintro (old | ⟨-, rfl⟩)
        · exact (single key a b (List.mem_append_left _ old) (by simp)).symm
        · rfl
    · rw [if_neg (mt Std.LawfulEqCmp.compare_eq_iff_eq.mp same), known]
      simp [Ne.symm same]

end Document

end CanvasLint.Canvas
