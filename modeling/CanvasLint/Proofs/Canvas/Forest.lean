import CanvasLint.Canvas.Snapshot
import Mathlib.Data.List.Infix
import Mathlib.Data.List.Nodup

/-! Forests by their shape. One induction principle serves all statements about listings, look-ups
and links: a forest is empty, or begins with an element without a list of children, or with one
that has such a list. Where ids are distinct, an id leads back to the one subtree it stands on. -/
namespace CanvasLint.Canvas

mutual

/-- The element and everything below it, parents first. -/
def Tree.nodes : Tree → List Node
  | .node e none _ => [e.toNode]
  | .node e (some ts) _ => e.toNode :: nodesOfAll ts

/-- The elements of several trees, one tree after the other. -/
def nodesOfAll : List Tree → List Node
  | [] => []
  | t :: ts => t.nodes ++ nodesOfAll ts

end

mutual

/-- The subtree of the first element with this id. -/
def Tree.find? (id : NodeId) : Tree → Option Tree
  | .node e none m => if e.id = id then some (.node e none m) else none
  | .node e (some ts) m =>
    if e.id = id then some (.node e (some ts) m) else findInAll? id ts

def findInAll? (id : NodeId) : List Tree → Option Tree
  | [] => none
  | t :: ts => (t.find? id).or (findInAll? id ts)

end

/-- An id with something that there may be for it. -/
def pairWith {α : Type} (id : NodeId) (a : Option α) : List (NodeId × α) :=
  (a.map (id, ·)).toList

mutual

/-- Every element that has a parent with the id of the parent, in pre-order. The top has the given
one, if any. -/
def Tree.links (parent : Option NodeId) : Tree → List (NodeId × NodeId)
  | .node e none _ => pairWith e.id parent
  | .node e (some ts) _ => pairWith e.id parent ++ linksOfAll (some e.id) ts

def linksOfAll (parent : Option NodeId) : List Tree → List (NodeId × NodeId)
  | [] => []
  | t :: ts => t.links parent ++ linksOfAll parent ts

end

mutual

/-- Every element that has a list of children with their ids, those below an element before it. -/
def Tree.childLists : Tree → List (NodeId × List NodeId)
  | .node _ none _ => []
  | .node e (some ts) _ => childListsOfAll ts ++ [(e.id, ts.map (·.content.id))]

def childListsOfAll : List Tree → List (NodeId × List NodeId)
  | [] => []
  | t :: ts => t.childLists ++ childListsOfAll ts

end

mutual

/-- Every element that was made from a component with the id of the component, in pre-order. -/
def Tree.components : Tree → List (NodeId × NodeId)
  | .node e none m => pairWith e.id m
  | .node e (some ts) m => pairWith e.id m ++ componentsOfAll ts

def componentsOfAll : List Tree → List (NodeId × NodeId)
  | [] => []
  | t :: ts => t.components ++ componentsOfAll ts

end

/-- What holds of a forest as soon as it holds of the children of its first tree and of its other
trees holds of every forest. -/
@[elab_as_elim]
theorem forest_induction {motive : List Tree → Prop} (nil : motive [])
    (leaf : ∀ e m ts, motive ts → motive (.node e none m :: ts))
    (inner : ∀ e cs m ts, motive cs → motive ts → motive (.node e (some cs) m :: ts)) :
    ∀ ts, motive ts
  | [] => nil
  | .node e none m :: ts => leaf e m ts (forest_induction nil leaf inner ts)
  | .node e (some cs) m :: ts =>
    inner e cs m ts (forest_induction nil leaf inner cs) (forest_induction nil leaf inner ts)

/-- The tree is one of these or stands somewhere below one of them. -/
inductive Within (t : Tree) : List Tree → Prop
  | here {ts} : Within t (t :: ts)
  | under {u cs ts} (given : u.children = some cs) (inside : Within t cs) : Within t (u :: ts)
  | later {u ts} (inside : Within t ts) : Within t (u :: ts)

/-- The ids of a forest in the order of its elements. -/
def idsOfAll (ts : List Tree) : List NodeId :=
  (nodesOfAll ts).map Node.id

variable {t u : Tree} {ts us cs : List Tree} {e : Element} {n : Node} {m parent : Option NodeId}
  {id child above : NodeId} {given : Option (List Tree)}

@[simp] theorem toNode_id : e.toNode.id = e.id := rfl

@[simp] theorem nodesOfAll_nil : nodesOfAll [] = [] := rfl

@[simp] theorem nodesOfAll_leaf : nodesOfAll (.node e none m :: ts) = e.toNode :: nodesOfAll ts := rfl

@[simp] theorem nodesOfAll_inner :
    nodesOfAll (.node e (some cs) m :: ts) = e.toNode :: (nodesOfAll cs ++ nodesOfAll ts) := rfl

theorem nodesOfAll_cons : nodesOfAll (t :: ts) = t.nodes ++ nodesOfAll ts := rfl

theorem nodesOfAll_eq_flatMap (ts : List Tree) : nodesOfAll ts = ts.flatMap Tree.nodes := by
  induction ts with
  | nil => rfl
  | cons t ts ih => simp [nodesOfAll_cons, ih]

@[simp] theorem idsOfAll_nil : idsOfAll [] = [] := rfl

@[simp] theorem idsOfAll_leaf : idsOfAll (.node e none m :: ts) = e.id :: idsOfAll ts := rfl

@[simp] theorem idsOfAll_inner :
    idsOfAll (.node e (some cs) m :: ts) = e.id :: (idsOfAll cs ++ idsOfAll ts) := by
  simp [idsOfAll]

/-- A tree lists its top first and then what stands below it. -/
theorem nodes_eq_cons (t : Tree) : t.nodes = t.content.toNode :: nodesOfAll (t.children.getD []) := by
  match t with
  | .node _ none _ | .node _ (some _) _ => rfl

theorem content_mem_nodes (t : Tree) : t.content.toNode ∈ t.nodes := by
  rw [nodes_eq_cons]; exact List.mem_cons_self

/-! ### Standing within a forest -/

theorem Within.of_mem (member : t ∈ ts) : Within t ts := by
  induction ts with
  | nil => cases member
  | cons u ts ih =>
    rcases List.mem_cons.mp member with rfl | member
    · exact .here
    · exact .later (ih member)

/-- What stands below a child stands below its parent. -/
theorem Within.trans (outer : Within t ts) (given : t.children = some cs)
    (inside : Within u cs) : Within u ts := by
  induction outer with
  | here => exact .under given inside
  | under given' _ ih => exact .under given' ih
  | later _ ih => exact .later ih

/-- A subtree is listed in one piece. -/
theorem Within.nodes_block (within : Within t ts) : t.nodes <:+: nodesOfAll ts := by
  induction within with
  | here => exact (List.prefix_append _ _).isInfix
  | @under u cs ts given _ ih =>
    obtain ⟨n, children, m⟩ := u
    cases given
    exact (ih.trans (List.prefix_append _ _).isInfix).trans (List.suffix_cons _ _).isInfix
  | later _ ih => exact ih.trans (List.suffix_append _ _).isInfix

theorem Within.content_mem (within : Within t ts) : t.content.toNode ∈ nodesOfAll ts :=
  within.nodes_block.subset (content_mem_nodes t)

theorem Within.id_mem (within : Within t ts) : t.content.id ∈ idsOfAll ts :=
  List.mem_map_of_mem within.content_mem

/-- The listed elements are the tops of the subtrees. -/
theorem mem_nodesOfAll : n ∈ nodesOfAll ts ↔ ∃ t, Within t ts ∧ t.content.toNode = n := by
  constructor
  · intro member
    induction ts using forest_induction with
    | nil => cases member
    | leaf top m ts ih =>
      rcases List.mem_cons.mp member with rfl | member
      · exact ⟨_, .here, rfl⟩
      · obtain ⟨t, within, same⟩ := ih member
        exact ⟨t, .later within, same⟩
    | inner top cs m ts below after =>
      rcases List.mem_cons.mp member with rfl | member
      · exact ⟨_, .here, rfl⟩
      · rcases List.mem_append.mp member with member | member
        · obtain ⟨t, within, same⟩ := below member
          exact ⟨t, .under rfl within, same⟩
        · obtain ⟨t, within, same⟩ := after member
          exact ⟨t, .later within, same⟩
  · rintro ⟨t, within, rfl⟩
    exact within.content_mem

theorem mem_idsOfAll : id ∈ idsOfAll ts ↔ ∃ t, Within t ts ∧ t.content.id = id := by
  simp only [idsOfAll, List.mem_map, mem_nodesOfAll]
  constructor
  · rintro ⟨n, ⟨t, within, rfl⟩, same⟩
    exact ⟨t, within, same⟩
  · rintro ⟨t, within, same⟩
    exact ⟨_, ⟨t, within, rfl⟩, same⟩

/-- The elements of a subtree are the tops of what stands within it. -/
theorem mem_nodes : n ∈ t.nodes ↔ ∃ u, Within u [t] ∧ u.content.toNode = n := by
  rw [← mem_nodesOfAll, nodesOfAll_cons, nodesOfAll_nil, List.append_nil]

/-- What stands within a subtree stands within the forest. -/
theorem Within.of_singleton (inner : Within u [t]) (outer : Within t ts) : Within u ts := by
  cases inner with
  | here => exact outer
  | under given inside => exact outer.trans given inside
  | later inside => cases inside

/-! ### Looking up an id -/

theorem within_of_findInAll? (found : findInAll? id ts = some t) :
    Within t ts ∧ t.content.id = id := by
  induction ts using forest_induction with
  | nil => cases found
  | leaf n m ts ih =>
    rw [findInAll?, Option.or_eq_some_iff, Tree.find?] at found
    rcases found with top | ⟨-, rest⟩
    · split at top
      · cases top; exact ⟨.here, by assumption⟩
      · cases top
    · exact (ih rest).imp_left .later
  | inner n cs m ts below after =>
    rw [findInAll?, Option.or_eq_some_iff, Tree.find?] at found
    rcases found with first | ⟨-, rest⟩
    · split at first
      · cases first; exact ⟨.here, by assumption⟩
      · exact (below first).imp_left (.under rfl)
    · exact (after rest).imp_left .later

/-- The look-up misses no element. -/
theorem findInAll?_eq_none_iff : findInAll? id ts = none ↔ id ∉ idsOfAll ts := by
  induction ts using forest_induction with
  | nil => simp [findInAll?]
  | leaf n m ts ih =>
    rw [findInAll?, Option.or_eq_none_iff, ih, Tree.find?, idsOfAll_leaf]
    by_cases same : n.id = id
    · simp [same]
    · simp [same, Ne.symm same]
  | inner n cs m ts below after =>
    rw [findInAll?, Option.or_eq_none_iff, after, Tree.find?, idsOfAll_inner]
    by_cases same : n.id = id
    · simp [same]
    · simp [same, Ne.symm same, below]

/-- Where ids are distinct, no two subtrees have tops of the same id. -/
theorem Within.unique (distinct : (idsOfAll ts).Nodup) (first : Within t ts)
    (second : Within u ts) (same : t.content.id = u.content.id) : t = u := by
  induction ts using forest_induction with
  | nil => cases first
  | leaf n m ts ih =>
    rw [idsOfAll_leaf, List.nodup_cons] at distinct
    cases first with
    | here =>
      cases second with
      | here => rfl
      | under given => cases given
      | later inside => exact absurd (same ▸ inside.id_mem) distinct.1
    | under given => cases given
    | later inside =>
      cases second with
      | here => exact absurd (same ▸ inside.id_mem) distinct.1
      | under given => cases given
      | later inside' => exact ih distinct.2 inside inside'
  | inner n cs m ts below after =>
    rw [idsOfAll_inner, List.nodup_cons, List.nodup_append', List.mem_append, not_or] at distinct
    obtain ⟨⟨topBelow, topAfter⟩, belowDistinct, afterDistinct, apart⟩ := distinct
    cases first with
    | here =>
      cases second with
      | here => rfl
      | under given inside => cases given; exact absurd (same ▸ inside.id_mem) topBelow
      | later inside => exact absurd (same ▸ inside.id_mem) topAfter
    | under given inside =>
      cases given
      cases second with
      | here => exact absurd (same ▸ inside.id_mem) topBelow
      | under given inside' => cases given; exact below belowDistinct inside inside'
      | later inside' => exact absurd inside.id_mem fun member => apart member (same ▸ inside'.id_mem)
    | later inside =>
      cases second with
      | here => exact absurd (same ▸ inside.id_mem) topAfter
      | under given inside' =>
        cases given
        exact absurd inside'.id_mem fun member => apart member (same ▸ inside.id_mem)
      | later inside' => exact after afterDistinct inside inside'

/-- Where ids are distinct, the look-up finds exactly the subtree with this id at its top. -/
theorem findInAll?_eq_some_iff (distinct : (idsOfAll ts).Nodup) :
    findInAll? id ts = some t ↔ Within t ts ∧ t.content.id = id := by
  refine ⟨within_of_findInAll?, ?_⟩
  rintro ⟨within, rfl⟩
  cases found : findInAll? t.content.id ts with
  | none => exact absurd within.id_mem (findInAll?_eq_none_iff.mp found)
  | some u =>
    obtain ⟨within', same⟩ := within_of_findInAll? found
    rw [within'.unique distinct within same]

/-! ### What the tables of a document are filled with -/

@[simp] theorem content_node : (Tree.node e given m).content = e := rfl

@[simp] theorem children_node : (Tree.node e given m).children = given := rfl

@[simp] theorem mainComponent_node : (Tree.node e given m).mainComponent = m := rfl

theorem not_within_nil : ¬ Within t [] :=
  nofun

theorem exists_within_leaf {p : Tree → Prop} :
    (∃ t, Within t (.node e none m :: ts) ∧ p t) ↔ p (.node e none m) ∨ ∃ t, Within t ts ∧ p t := by
  constructor
  · rintro ⟨t, _ | ⟨given, -⟩ | inside, holds⟩
    · exact .inl holds
    · cases given
    · exact .inr ⟨t, inside, holds⟩
  · rintro (holds | ⟨t, inside, holds⟩)
    · exact ⟨_, .here, holds⟩
    · exact ⟨t, .later inside, holds⟩

theorem exists_within_inner {p : Tree → Prop} :
    (∃ t, Within t (.node e (some cs) m :: ts) ∧ p t) ↔
      p (.node e (some cs) m) ∨ (∃ t, Within t cs ∧ p t) ∨ ∃ t, Within t ts ∧ p t := by
  constructor
  · rintro ⟨t, _ | ⟨given, inside⟩ | inside, holds⟩
    · exact .inl holds
    · cases given
      exact .inr (.inl ⟨t, inside, holds⟩)
    · exact .inr (.inr ⟨t, inside, holds⟩)
  · rintro (holds | ⟨t, inside, holds⟩ | ⟨t, inside, holds⟩)
    · exact ⟨_, .here, holds⟩
    · exact ⟨t, .under rfl inside, holds⟩
    · exact ⟨t, .later inside, holds⟩

theorem mem_pairWith {α : Type} {a : α} {given : Option α} {id' : NodeId} :
    (id', a) ∈ pairWith id given ↔ id = id' ∧ given = some a := by
  cases given <;> simp [pairWith, eq_comm]

/-- The links of a forest say who is a child of whom. -/
theorem mem_linksOfAll : (child, above) ∈ linksOfAll parent ts ↔
    (parent = some above ∧ ∃ t ∈ ts, t.content.id = child) ∨
      ∃ t, Within t ts ∧ ∃ cs, t.children = some cs ∧ t.content.id = above ∧
        ∃ u ∈ cs, u.content.id = child := by
  induction ts using forest_induction generalizing parent with
  | nil => simp [linksOfAll, not_within_nil]
  | leaf e m ts ih =>
    simp only [linksOfAll, Tree.links, List.mem_append, mem_pairWith, ih, exists_within_leaf,
      children_node, content_node, List.exists_mem_cons_iff, reduceCtorEq, false_and, exists_false,
      false_or]
    grind
  | inner e cs m ts below after =>
    simp only [linksOfAll, Tree.links, List.mem_append, mem_pairWith, below, after,
      exists_within_inner, children_node, content_node, List.exists_mem_cons_iff, Option.some.injEq,
      exists_eq_left']
    grind

/-- The lists of children are those of the subtrees. -/
theorem mem_childListsOfAll {p : NodeId × List NodeId} : p ∈ childListsOfAll ts ↔
    ∃ t, Within t ts ∧ ∃ cs, t.children = some cs ∧ p = (t.content.id, cs.map (·.content.id)) := by
  induction ts using forest_induction with
  | nil => simp [childListsOfAll, not_within_nil]
  | leaf e m ts ih =>
    simp only [childListsOfAll, Tree.childLists, List.nil_append, ih, exists_within_leaf,
      children_node, reduceCtorEq, false_and, exists_false, false_or]
  | inner e cs m ts below after =>
    simp only [childListsOfAll, Tree.childLists, List.mem_append, List.mem_singleton, below, after,
      exists_within_inner, children_node, content_node, Option.some.injEq, exists_eq_left']
    rw [or_assoc, or_left_comm]

/-- The main components are those that the subtrees name. -/
theorem mem_componentsOfAll : (id, above) ∈ componentsOfAll ts ↔
    ∃ t, Within t ts ∧ t.content.id = id ∧ t.mainComponent = some above := by
  induction ts using forest_induction with
  | nil => simp [componentsOfAll, not_within_nil]
  | leaf e m ts ih =>
    simp only [componentsOfAll, Tree.components, List.mem_append, mem_pairWith, ih,
      exists_within_leaf, content_node, mainComponent_node]
  | inner e cs m ts below after =>
    simp only [componentsOfAll, Tree.components, List.mem_append, mem_pairWith, below, after,
      exists_within_inner, content_node, mainComponent_node, or_assoc]

end CanvasLint.Canvas
