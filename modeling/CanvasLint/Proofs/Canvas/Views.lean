import CanvasLint.Proofs.Canvas.Tables
import CanvasLint.Proofs.Outcome
import Mathlib.Data.List.Perm.Basic
import Mathlib.Logic.Relation

/-! A document answers as its snapshot says. The snapshot is read here through subtrees and where
they stand; the views of the document are look-ups in its tables. They agree because ids are
distinct, which is settled once when the document is made and which no change of the selection
touches. -/
namespace CanvasLint.Canvas

variable {s : Snapshot} {d d' : Document} {t : Tree} {ts cs : List Tree} {n : Node}
  {id p c : NodeId} {ids : List NodeId} {e : DocumentError}

/-! ### Elements as they are shown -/

/-- A size in pixels is kept, and mixed sizes stay mixed. -/
inductive FontSizeEntry.Means : FontSizeEntry → FontSize → Prop
  | px (size : Float) : Means (.px size) (.px size)
  | mixed : Means .mixed .mixed

structure PaintEntry.Means (written : PaintEntry) (p : Paint) : Prop where
  kind : p.kind = written.kind
  color : p.color = written.color

/-- Paints are kept one by one, mixed fills stay mixed, and where none are written there are no
paints. -/
inductive FillsEntry.Means : Option FillsEntry → Fills → Prop
  | absent : Means none (.paints [])
  | mixed : Means (some .mixed) .mixed
  | paints {written : List PaintEntry} {ps : List Paint}
      (each : List.Forall₂ PaintEntry.Means written ps) : Means (some (.paints written)) (.paints ps)

/-- The node says of the element what was written of it, field by field. -/
structure Element.ShownBy (e : Element) (n : Node) : Prop where
  id : n.id = e.id
  name : n.name = e.name
  kind : n.kind = e.kind
  x : n.x = e.x
  y : n.y = e.y
  width : n.width = e.width
  height : n.height = e.height
  characters : n.characters = e.characters
  fontSize : Option.Rel FontSizeEntry.Means e.fontSize n.fontSize
  fontWeight : n.fontWeight = e.fontWeight
  fills : FillsEntry.Means e.fills n.fills

theorem FontSizeEntry.means_fontSize (written : FontSizeEntry) : written.Means written.fontSize := by
  cases written with
  | px size => exact .px size
  | mixed => exact .mixed

theorem FillsEntry.means_fills (written : FillsEntry) : Means (some written) written.fills := by
  cases written with
  | mixed => exact .mixed
  | paints ps =>
    have each : List.Forall₂ PaintEntry.Means ps (ps.map PaintEntry.paint) :=
      List.forall₂_map_right_iff.mpr (List.forall₂_same.mpr fun p _ => ⟨rfl, rfl⟩)
    exact .paints each

theorem Element.shownBy_toNode (e : Element) : e.ShownBy e.toNode where
  id := rfl
  name := rfl
  kind := rfl
  x := rfl
  y := rfl
  width := rfl
  height := rfl
  characters := rfl
  fontWeight := rfl
  fontSize := by
    rw [toNode]
    cases e.fontSize with
    | none => exact .none
    | some written => exact .some written.means_fontSize
  fills := by
    rw [toNode]
    cases e.fills with
    | none => exact .absent
    | some written => exact written.means_fills

/-- The elements of a forest in pre-order: every element before its children, and the children in
order, each with everything below it. -/
inductive PreOrder : List Tree → List Node → Prop
  | nil : PreOrder [] []
  | leaf {e m ts n ns} (shown : e.ShownBy n) (rest : PreOrder ts ns) :
      PreOrder (.node e none m :: ts) (n :: ns)
  | inner {e cs m ts n below ns} (shown : e.ShownBy n) (inside : PreOrder cs below)
      (rest : PreOrder ts ns) : PreOrder (.node e (some cs) m :: ts) (n :: (below ++ ns))

theorem preOrder_nodesOfAll (ts : List Tree) : PreOrder ts (nodesOfAll ts) := by
  induction ts using forest_induction with
  | nil => exact .nil
  | leaf e m ts ih => exact .leaf e.shownBy_toNode ih
  | inner e cs m ts below after => exact .inner e.shownBy_toNode below after

/-! ### Links and positions -/

private theorem map_fst_pairWith {parent : Option NodeId} :
    (pairWith id parent).map Prod.fst = if parent.isSome then [id] else [] := by
  cases parent <;> rfl

private theorem map_fst_linksOfAll (ts : List Tree) (parent : NodeId) :
    (linksOfAll (some parent) ts).map Prod.fst = idsOfAll ts := by
  induction ts using forest_induction generalizing parent with
  | nil => rfl
  | leaf e m ts ih => simp [linksOfAll, Tree.links, map_fst_pairWith, ih]
  | inner e cs m ts below after =>
    simp [linksOfAll, Tree.links, map_fst_pairWith, below, after]

/-- Every element is a top or a child, and none is both or is it twice. -/
theorem idsOfAll_perm (ts : List Tree) :
    (idsOfAll ts).Perm (ts.map (·.content.id) ++ (linksOfAll none ts).map Prod.fst) := by
  induction ts with
  | nil => exact .nil
  | cons t ts ih =>
    match t with
    | .node e none m => simpa [linksOfAll, Tree.links, pairWith] using ih
    | .node e (some cs) m =>
      simp only [idsOfAll_inner, List.map_cons, content_node, linksOfAll, Tree.links, pairWith,
        Option.map_none, Option.toList_none, List.nil_append, List.map_append, map_fst_linksOfAll,
        List.cons_append]
      refine .cons _ ((ih.append_left (idsOfAll cs)).trans ?_)
      rw [← List.append_assoc, ← List.append_assoc]
      exact List.perm_append_comm.append_right _

/-- The ids of a subtree stand together in the listing, its top in front. -/
theorem Within.ids_split (within : Within t ts) : ∃ before after, idsOfAll ts =
    before ++ t.content.id :: (idsOfAll (t.children.getD []) ++ after) := by
  obtain ⟨before, after, whole⟩ := within.nodes_block
  refine ⟨before.map Node.id, after.map Node.id, ?_⟩
  rw [idsOfAll, ← whole, nodes_eq_cons]
  simp [idsOfAll]

/-- In a list without repeats, what stands behind an entry comes at a later place. -/
theorem idxOf_lt_idxOf_of_split {before after : List NodeId}
    (distinct : (before ++ p :: after).Nodup) (behind : c ∈ after) :
    (before ++ p :: after).idxOf p < (before ++ p :: after).idxOf c := by
  rw [List.nodup_append', List.nodup_cons] at distinct
  obtain ⟨-, ⟨fresh, -⟩, apart⟩ := distinct
  have first : p ∉ before := fun member => apart member List.mem_cons_self
  have second : c ∉ before := fun member => apart member (List.mem_cons_of_mem _ behind)
  have different : p ≠ c := fun same => fresh (same ▸ behind)
  rw [List.idxOf_append_of_notMem first, List.idxOf_append_of_notMem second,
    List.idxOf_cons_eq _ rfl, List.idxOf_cons_ne _ different]
  omega

namespace Document

/-- Where an element stands in the listing of the document. -/
def position (d : Document) (id : NodeId) : Nat :=
  (d.nodes.map Node.id).idxOf id

/-- The step from an element to its parent. -/
def ChildOf (d : Document) (child parent : NodeId) : Prop :=
  d.parentOf child = some parent

/-! ### What making a document settles -/

/-- What holds of a document with this forest when it is made, and remains so whatever is selected
later. -/
structure Sound (d : Document) (ts : List Tree) : Prop where
  tables : d = ofForest ts d.selection
  distinct : (idsOfAll ts).Nodup
  extents : ∀ n ∈ nodesOfAll ts, validExtent n.width ∧ validExtent n.height
  selected : ∀ id ∈ d.selection, id ∈ idsOfAll ts

theorem Sound.nodes_eq (sound : d.Sound ts) : d.nodes = nodesOfAll ts := by
  rw [sound.tables, nodes, ofForest, extend]
  simp [empty]

theorem Sound.ids_eq (sound : d.Sound ts) : d.nodes.map Node.id = idsOfAll ts := by
  rw [sound.nodes_eq, idsOfAll]

/-- The place of an element in the table is its place in the listing. -/
theorem Sound.index_iff (sound : d.Sound ts) {i : Nat} :
    d.index[id]? = some i ↔ (idsOfAll ts)[i]? = some id := by
  have entries : d.index = (∅ : Std.TreeMap NodeId Nat).insertMany ((idsOfAll ts).zipIdx 0) := by
    rw [sound.tables]
    rfl
  rw [entries, getElem?_table_iff, List.mk_mem_zipIdx_iff_getElem?]
  intro id i j first second
  rw [List.mk_mem_zipIdx_iff_getElem?] at first second
  obtain ⟨inside, same⟩ := List.getElem?_eq_some_iff.mp first
  exact (List.getElem?_inj inside sound.distinct).mp (first.trans second.symm)

theorem Sound.mem_index_iff (sound : d.Sound ts) : id ∈ d.index ↔ id ∈ idsOfAll ts := by
  rw [Std.TreeMap.mem_iff_isSome_getElem?, Option.isSome_iff_exists, List.mem_iff_getElem?]
  exact exists_congr fun _ => sound.index_iff

/-- The table leads to places that the array has. -/
theorem Sound.index_lt (sound : d.Sound ts) {i : Nat} (entered : d.index[id]? = some i) :
    i < d.arena.size := by
  have inside := (List.getElem?_eq_some_iff.mp (sound.index_iff.mp entered)).1
  rwa [← sound.ids_eq, List.length_map, nodes, Array.length_toList] at inside

theorem select_eq_ok_iff : d.select ids = .ok d' ↔
    (∀ id ∈ ids, id ∈ d.index) ∧ d' = { d with selection := ids } := by
  have known : d.firstUnknown? ids = none ↔ ∀ id ∈ ids, id ∈ d.index := by
    simp only [firstUnknown?, List.find?_eq_none, Std.TreeMap.mem_iff_contains, Bool.not_eq_true',
      Bool.not_eq_false]
  rw [select, ← known]
  cases d.firstUnknown? ids <;> simp [eq_comm]

/-- A refusal names the first id that no element has. -/
theorem select_eq_error_iff : d.select ids = .error e ↔
    ∃ before id after, ids = before ++ id :: after ∧ (∀ i ∈ before, i ∈ d.index) ∧
      id ∉ d.index ∧ e = .unknownSelection id := by
  have first (id : NodeId) : d.firstUnknown? ids = some id ↔ ∃ before after,
      ids = before ++ id :: after ∧ (∀ i ∈ before, i ∈ d.index) ∧ id ∉ d.index := by
    simp only [firstUnknown?, List.find?_eq_some_iff_append, Std.TreeMap.mem_iff_contains,
      Bool.not_eq_true', Bool.not_not, Bool.not_eq_true]
    exact ⟨fun ⟨new, before, after, whole, old⟩ => ⟨before, after, whole, old, new⟩,
      fun ⟨before, after, whole, old, new⟩ => ⟨new, before, after, whole, old⟩⟩
  rw [select]
  cases unknown : d.firstUnknown? ids with
  | none =>
    refine ⟨nofun, fun ⟨before, id, after, whole, old, new, _⟩ => ?_⟩
    rw [(first id).mpr ⟨before, after, whole, old, new⟩] at unknown
    cases unknown
  | some id =>
    constructor
    · intro refused
      obtain ⟨before, after, whole, old, new⟩ := (first id).mp unknown
      cases refused
      exact ⟨before, id, after, whole, old, new, rfl⟩
    · rintro ⟨before, id', after, whole, old, new, rfl⟩
      rw [(first id').mpr ⟨before, after, whole, old, new⟩] at unknown
      cases unknown
      rfl

theorem Sound.of_select (sound : d.Sound ts) (done : d.select ids = .ok d') : d'.Sound ts := by
  obtain ⟨known, rfl⟩ := select_eq_ok_iff.mp done
  refine ⟨?_, sound.distinct, sound.extents, fun id given => sound.mem_index_iff.mp (known id given)⟩
  have same := sound.tables
  rw [ofForest] at same ⊢
  rw [same]

theorem Sound.of_ofSnapshot (made : ofSnapshot s = .ok d) : d.Sound s.trees := by
  rw [ofSnapshot_eq, Outcome.bind_eq_ok] at made
  obtain ⟨d', filled, made⟩ := made
  obtain ⟨clean, rfl⟩ := unlessFault_eq_ok.mp filled
  obtain ⟨distinct, -, extents⟩ := firstFault_eq_none_iff.mp clean
  have fresh : (ofForest s.trees (s.trees.map (·.content.id))).Sound s.trees := by
    refine ⟨rfl, distinct, extents, fun id root => ?_⟩
    obtain ⟨t, member, rfl⟩ := List.mem_map.mp root
    exact (Within.of_mem member).id_mem
  split at made
  · cases made
    exact fresh
  · exact fresh.of_select made

theorem ofText_eq_ok {text : String} :
    ofText text = .ok d ↔ ∃ s, Snapshot.ofText text = .ok s ∧ ofSnapshot s = .ok d := by
  rw [ofText]
  cases Snapshot.ofText text <;> simp

/-! ### The views of a sound document -/

theorem Sound.resolve?_iff (sound : d.Sound ts) :
    d.resolve? id = some n ↔ n ∈ d.nodes ∧ n.id = id := by
  have places (i : Nat) : (idsOfAll ts)[i]? = d.arena[i]?.map Node.id := by
    rw [← sound.ids_eq, List.getElem?_map, nodes, Array.getElem?_toList]
  change d.index[id]?.bind (d.arena[·]?) = some n ↔ _
  rw [Option.bind_eq_some_iff, nodes, Array.mem_toList_iff, Array.mem_iff_getElem?]
  constructor
  · rintro ⟨i, entered, found⟩
    rw [sound.index_iff, places, found] at entered
    exact ⟨⟨i, found⟩, Option.some.inj entered⟩
  · rintro ⟨⟨i, found⟩, rfl⟩
    refine ⟨i, ?_, found⟩
    rw [sound.index_iff, places, found]
    rfl

theorem Sound.isSome_resolve?_iff (sound : d.Sound ts) :
    (d.resolve? id).isSome ↔ id ∈ idsOfAll ts := by
  rw [Option.isSome_iff_exists, ← sound.ids_eq, List.mem_map]
  exact exists_congr fun _ => sound.resolve?_iff

theorem Sound.resolve?_eq_none_iff (sound : d.Sound ts) :
    d.resolve? id = none ↔ id ∉ idsOfAll ts := by
  rw [← sound.isSome_resolve?_iff, Option.not_isSome_iff_eq_none]

theorem Sound.childrenOf_iff (sound : d.Sound ts) : d.childrenOf id = some ids ↔
    ∃ t, Within t ts ∧ ∃ cs, t.children = some cs ∧
      (id, ids) = (t.content.id, cs.map (·.content.id)) := by
  have entries : d.children = (∅ : Std.TreeMap NodeId (List NodeId)).insertMany
      (childListsOfAll ts) := by
    rw [sound.tables]
    rfl
  rw [childrenOf, entries, getElem?_table_iff, mem_childListsOfAll]
  intro id ids ids' first second
  obtain ⟨t, within, cs, given, same⟩ := mem_childListsOfAll.mp first
  obtain ⟨t', within', cs', given', same'⟩ := mem_childListsOfAll.mp second
  cases same
  obtain ⟨ids', rfl⟩ := Prod.mk.inj same'
  obtain rfl := within.unique sound.distinct within' ids'
  rw [given] at given'
  cases given'
  rfl

theorem Sound.childrenOf_content (sound : d.Sound ts) (within : Within t ts) :
    d.childrenOf t.content.id = t.children.map (·.map (·.content.id)) := by
  ext ids
  rw [sound.childrenOf_iff, Option.map_eq_some_iff]
  constructor
  · rintro ⟨u, inside, cs, given, same⟩
    obtain ⟨ids, rfl⟩ := Prod.mk.inj same
    obtain rfl := within.unique sound.distinct inside ids
    exact ⟨cs, given, rfl⟩
  · rintro ⟨cs, given, rfl⟩
    exact ⟨t, within, cs, given, rfl⟩

theorem Sound.childrenOf_unknown (sound : d.Sound ts) (unknown : id ∉ idsOfAll ts) :
    d.childrenOf id = none := by
  by_contra given
  obtain ⟨ids, given⟩ := Option.ne_none_iff_exists'.mp given
  obtain ⟨t, within, cs, -, same⟩ := sound.childrenOf_iff.mp given
  cases same
  exact unknown within.id_mem

theorem Sound.mainComponentOf_content (sound : d.Sound ts) (within : Within t ts) :
    d.mainComponentOf t.content.id = t.mainComponent.bind d.resolve? := by
  have entries : d.components = (∅ : Std.TreeMap NodeId NodeId).insertMany (componentsOfAll ts) := by
    rw [sound.tables]
    rfl
  have component : d.components[t.content.id]? = t.mainComponent := by
    ext m
    rw [entries, getElem?_table_iff, mem_componentsOfAll]
    · constructor
      · rintro ⟨u, inside, same, given⟩
        rwa [← inside.unique sound.distinct within same]
      · intro given
        exact ⟨t, within, rfl, given⟩
    · intro id m m' first second
      obtain ⟨u, inside, rfl, given⟩ := mem_componentsOfAll.mp first
      obtain ⟨u', inside', same, given'⟩ := mem_componentsOfAll.mp second
      rw [inside'.unique sound.distinct inside same] at given'
      exact Option.some.inj (given.symm.trans given')
  rw [mainComponentOf, component]
  rfl

private theorem Sound.links_distinct (sound : d.Sound ts) :
    ((linksOfAll none ts).map Prod.fst).Nodup :=
  (List.nodup_append'.mp ((idsOfAll_perm ts).nodup_iff.mp sound.distinct)).2.1

private theorem Sound.parentOf_iff (sound : d.Sound ts) :
    d.parentOf c = some p ↔ (c, p) ∈ linksOfAll none ts := by
  have entries : d.parents = (∅ : Std.TreeMap NodeId NodeId).insertMany (linksOfAll none ts) := by
    rw [sound.tables]
    rfl
  rw [parentOf, entries, getElem?_table_iff]
  intro id p p' first second
  exact congrArg Prod.snd (List.inj_on_of_nodup_map sound.links_distinct first second rfl)

/-- The parent of an element is the top of the subtree among whose children it is. -/
theorem Sound.childOf_iff_within (sound : d.Sound ts) :
    d.ChildOf c p ↔ ∃ t, Within t ts ∧ ∃ cs, t.children = some cs ∧ t.content.id = p ∧
      ∃ u ∈ cs, u.content.id = c := by
  rw [ChildOf, sound.parentOf_iff, mem_linksOfAll]
  simp

/-- An element is the parent of its children and of no others. -/
theorem Sound.childOf_iff (sound : d.Sound ts) :
    d.ChildOf c p ↔ ∃ siblings, d.childrenOf p = some siblings ∧ c ∈ siblings := by
  rw [sound.childOf_iff_within]
  constructor
  · rintro ⟨t, within, cs, given, rfl, u, member, rfl⟩
    refine ⟨cs.map (·.content.id), ?_, List.mem_map_of_mem member⟩
    rw [sound.childrenOf_content within, given, Option.map_some]
  · rintro ⟨siblings, listed, member⟩
    obtain ⟨t, within, cs, given, same⟩ := sound.childrenOf_iff.mp listed
    cases same
    obtain ⟨u, child, rfl⟩ := List.mem_map.mp member
    exact ⟨t, within, cs, given, rfl, u, child, rfl⟩

theorem Sound.parentOf_root (sound : d.Sound ts) (root : t ∈ ts) :
    d.parentOf t.content.id = none := by
  have apart := (List.nodup_append'.mp ((idsOfAll_perm ts).nodup_iff.mp sound.distinct)).2.2
  by_contra given
  obtain ⟨p, given⟩ := Option.ne_none_iff_exists'.mp given
  exact apart (List.mem_map_of_mem root) (List.mem_map_of_mem (sound.parentOf_iff.mp given))

/-- A parent stands before its children. -/
theorem Sound.split_of_childOf (sound : d.Sound ts) (child : d.ChildOf c p) :
    ∃ before between after, d.nodes.map Node.id = before ++ p :: between ++ c :: after := by
  obtain ⟨t, within, cs, given, rfl, u, member, rfl⟩ := sound.childOf_iff_within.mp child
  obtain ⟨before, after, whole⟩ := within.ids_split
  rw [given, Option.getD_some] at whole
  obtain ⟨first, last, split⟩ := List.append_of_mem (Within.of_mem member).id_mem
  refine ⟨before, first, last ++ after, ?_⟩
  rw [sound.ids_eq, whole, split]
  simp

theorem Sound.position_lt (sound : d.Sound ts) (child : d.ChildOf c p) :
    d.position p < d.position c := by
  obtain ⟨before, between, after, whole⟩ := sound.split_of_childOf child
  have distinct := sound.distinct
  rw [← sound.ids_eq] at distinct
  rw [position, position, whole, List.append_assoc, List.cons_append]
  rw [whole, List.append_assoc, List.cons_append] at distinct
  exact idxOf_lt_idxOf_of_split distinct (List.mem_append_right _ List.mem_cons_self)

/-- Going from child to parent leads strictly to the front of the listing. -/
theorem Sound.position_lt_of_chain (sound : d.Sound ts) (chain : Relation.TransGen d.ChildOf c p) :
    d.position p < d.position c := by
  induction chain with
  | single child => exact sound.position_lt child
  | tail _ child ih => exact (sound.position_lt child).trans ih

/-! ### Changing the selection -/

/-- The document after a request to replace the selection; a refused request leaves it alone. -/
def trySelect (d : Document) (ids : List NodeId) : Document :=
  match d.select ids with
  | .ok d' => d'
  | .error _ => d

/-- The document after some requests, one after the other. -/
def afterSelections (d : Document) (requests : List (List NodeId)) : Document :=
  requests.foldl trySelect d

private theorem Sound.trySelect (sound : d.Sound ts) (ids : List NodeId) :
    (d.trySelect ids).Sound ts := by
  rw [Document.trySelect]
  cases done : d.select ids with
  | error e => exact sound
  | ok d' => exact sound.of_select done

theorem Sound.afterSelections (sound : d.Sound ts) (requests : List (List NodeId)) :
    (d.afterSelections requests).Sound ts := by
  induction requests generalizing d with
  | nil => exact sound
  | cons ids requests ih => exact ih (sound.trySelect ids)

/-- Documents that a program can come to hold, with their forests: the empty one, those made from
snapshots, and what requests to replace the selection make of them. -/
inductive Reachable : List Tree → Document → Prop
  | empty : Reachable [] .empty
  | made {s : Snapshot} {d : Document} (made : ofSnapshot s = .ok d) : Reachable s.trees d
  | selected {ts : List Tree} {d d' : Document} {ids : List NodeId} (start : Reachable ts d)
      (done : d.select ids = .ok d') : Reachable ts d'

theorem Reachable.sound (reachable : Reachable ts d) : d.Sound ts := by
  induction reachable with
  | empty =>
    refine ⟨?_, List.nodup_nil, fun n member => absurd member List.not_mem_nil,
      fun id member => absurd member List.not_mem_nil⟩
    rw [ofForest, extend_nil]
    rfl
  | made made => exact .of_ofSnapshot made
  | selected _ done ih => exact ih.of_select done

/-! ### All views together -/

/-- The document shows the forest of the snapshot, whichever way it is asked. -/
structure Shows (d : Document) (s : Snapshot) : Prop where
  listed : PreOrder s.trees d.nodes
  distinct : (d.nodes.map Node.id).Nodup
  indexed : ∀ (id : NodeId) (i : Nat), d.index[id]? = some i → i < d.arena.size
  resolved : ∀ id n, d.resolve? id = some n ↔ n ∈ d.nodes ∧ n.id = id
  unresolved : ∀ id, d.resolve? id = none ↔ id ∉ d.nodes.map Node.id
  children : ∀ t, Within t s.trees →
    d.childrenOf t.content.id = t.children.map (·.map (·.content.id))
  childless : ∀ id, d.resolve? id = none → d.childrenOf id = none
  components : ∀ t, Within t s.trees →
    d.mainComponentOf t.content.id = t.mainComponent.bind d.resolve?
  parents : ∀ c p, d.parentOf c = some p ↔
    ∃ siblings, d.childrenOf p = some siblings ∧ c ∈ siblings
  roots : d.roots = s.trees.map (·.content.id)
  tops : ∀ id ∈ d.roots, d.parentOf id = none
  parentsFirst : ∀ c p, d.parentOf c = some p →
    ∃ before between after, d.nodes.map Node.id = before ++ p :: between ++ c :: after
  acyclic : ∀ id, ¬ Relation.TransGen (fun c p => d.parentOf c = some p) id id
  selected : ∀ id ∈ d.selection, (d.resolve? id).isSome

/-- What comes of a request to replace the selection. -/
structure SelectsWell (d : Document) (ids : List NodeId) : Prop where
  refused : ∀ e, d.select ids = .error e →
    d.trySelect ids = d ∧ ∃ before id after, ids = before ++ id :: after ∧
      (∀ i ∈ before, (d.resolve? i).isSome) ∧ d.resolve? id = none ∧ e = .unknownSelection id
  granted : ∀ d', d.select ids = .ok d' →
    d.trySelect ids = d' ∧ d' = { d with selection := ids } ∧ ∀ i ∈ ids, (d.resolve? i).isSome

theorem Sound.shows (sound : d.Sound s.trees) : d.Shows s where
  listed := by rw [sound.nodes_eq]; exact preOrder_nodesOfAll _
  distinct := by rw [sound.ids_eq]; exact sound.distinct
  indexed _ _ := sound.index_lt
  resolved _ _ := sound.resolve?_iff
  unresolved _ := by rw [sound.ids_eq]; exact sound.resolve?_eq_none_iff
  children _ := sound.childrenOf_content
  childless _ unknown := sound.childrenOf_unknown (sound.resolve?_eq_none_iff.mp unknown)
  components _ := sound.mainComponentOf_content
  parents _ _ := sound.childOf_iff
  roots := by rw [sound.tables]; rfl
  tops id root := by
    rw [sound.tables] at root
    obtain ⟨t, member, rfl⟩ := List.mem_map.mp root
    exact sound.parentOf_root member
  parentsFirst _ _ := sound.split_of_childOf
  acyclic _ chain := absurd (sound.position_lt_of_chain chain) (lt_irrefl _)
  selected _ member := sound.isSome_resolve?_iff.mpr (sound.selected _ member)

theorem Sound.selectsWell (sound : d.Sound ts) (ids : List NodeId) : d.SelectsWell ids where
  refused e refused := by
    obtain ⟨before, id, after, rfl, passed, fails, rfl⟩ := select_eq_error_iff.mp refused
    refine ⟨by rw [Document.trySelect, refused], before, id, after, rfl, fun i member => ?_, ?_, rfl⟩
    · exact sound.isSome_resolve?_iff.mpr (sound.mem_index_iff.mp (passed i member))
    · exact sound.resolve?_eq_none_iff.mpr (mt sound.mem_index_iff.mpr fails)
  granted d' granted := by
    obtain ⟨known, rfl⟩ := select_eq_ok_iff.mp granted
    refine ⟨by rw [Document.trySelect, granted], rfl, fun i member => ?_⟩
    exact sound.isSome_resolve?_iff.mpr (sound.mem_index_iff.mp (known i member))

/-- A document made from a snapshot shows it after any requests to replace the selection, granted
or refused, and answers the next request by what it shows. -/
theorem afterSelections_shows (made : ofSnapshot s = .ok d) (requests : List (List NodeId)) :
    (d.afterSelections requests).Shows s ∧
      ∀ ids, (d.afterSelections requests).SelectsWell ids := by
  have sound := (Sound.of_ofSnapshot made).afterSelections requests
  exact ⟨sound.shows, sound.selectsWell⟩

/-- A page with a card on it, which holds a title, and with an empty footer that was made from the
card; beside the page stands a note. The footer and the title are selected. -/
def bulletin : Snapshot where
  selection := some ["footer", "title"]
  trees := [
    .node { id := "page", kind := .frame } (some [
      .node { id := "card", kind := .component } (some [
        .node { id := "title", kind := .text, characters := some "Today", fontSize := some (.px 14)
                fills := some (.paints [⟨.image, none⟩, ⟨.solid, some ⟨0, 0, 0⟩⟩]) } none none]) none,
      .node { id := "footer", kind := .componentInstance, width := 320, fills := some .mixed }
        (some []) (some "card")]) none,
    .node { id := "note", kind := .other } none none]

/-- The document of the bulletin. -/
def bulletinDocument : Document :=
  ofForest bulletin.trees ["footer", "title"]

theorem ofSnapshot_bulletin : ofSnapshot bulletin = .ok bulletinDocument := by
  rfl

/-- The second request names an unknown element, so that the first one stands. -/
theorem afterSelections_shows_bulletin :
    let d := bulletinDocument.afterSelections [["note"], ["card", "gone", "lost"]]
    d.selection = ["note"] ∧ d.Shows bulletin ∧ d.childrenOf "page" = some ["card", "footer"] ∧
      d.childrenOf "footer" = some [] ∧ d.childrenOf "title" = none ∧
      d.parentOf "title" = some "card" ∧ d.SelectsWell ["card", "gone", "lost"] ∧
      d.nodes.map (fun n => (n.characters, n.fontSize, n.fills)) = [(none, none, .paints []),
        (none, none, .paints []),
        (some "Today", some (.px 14), .paints [⟨.image, none⟩, ⟨.solid, some ⟨0, 0, 0⟩⟩]),
        (none, none, .mixed), (none, none, .paints [])] := by
  obtain ⟨shows', selects⟩ :=
    afterSelections_shows ofSnapshot_bulletin [["note"], ["card", "gone", "lost"]]
  exact ⟨rfl, shows', rfl, rfl, rfl, rfl, selects _, rfl⟩

end Document

end CanvasLint.Canvas
