import CanvasLint.Canvas.Scan
import CanvasLint.Proofs.Canvas.Views
import CanvasLint.Report.Run
import Mathlib.Data.List.Sort

/-! A walk passes over a subtree if its top has been met. The reference is simpler: list the
subtrees one after the other and keep of every element its first occurrence. They agree since
whatever has been met before a visit has been met with everything below it. -/
namespace CanvasLint.Canvas

deriving instance DecidableEq for Tint, Paint, Fills, FontSize, Node

variable {d : Document} {s : Snapshot} {t u : Tree} {ts us cs : List Tree} {n : Node}
  {w : Walk} {met : List NodeId} {ns extra : List Node} {ids : List NodeId} {id : NodeId}

/-! ### What has been met -/

/-- What has been met of a forest has been met with everything below it. -/
def MetWhole (met : List NodeId) (ts : List Tree) : Prop :=
  ∀ t, Within t ts → t.content.id ∈ met → ∀ n ∈ t.nodes, n.id ∈ met

/-- The elements of the list that have not been met. -/
def unmetOf (met : List NodeId) (ns : List Node) : List Node :=
  ns.filter (·.id ∉ met)

/-- The walk after some more elements. -/
def Walk.extend (w : Walk) (ns : List Node) : Walk :=
  ⟨(ns.map Node.id).reverse ++ w.met, w.found ++ ns⟩

private theorem Walk.extend_nil : w.extend [] = w := by
  simp [extend]

private theorem Walk.extend_extend (ns ns' : List Node) :
    (w.extend ns).extend ns' = w.extend (ns ++ ns') := by
  simp [extend]

private theorem Walk.mem_met_extend : id ∈ (w.extend ns).met ↔ id ∈ ns.map Node.id ∨ id ∈ w.met := by
  simp [extend]

private theorem mem_unmetOf : n ∈ unmetOf met ns ↔ n ∈ ns ∧ n.id ∉ met := by
  rw [unmetOf, List.mem_filter, decide_eq_true_eq]

private theorem unmetOf_append (met : List NodeId) (ns ns' : List Node) :
    unmetOf met (ns ++ ns') = unmetOf met ns ++ unmetOf met ns' :=
  List.filter_append ns ns'

private theorem unmetOf_cons_of_new (new : n.id ∉ met) :
    unmetOf met (n :: ns) = n :: unmetOf met ns :=
  List.filter_cons_of_pos (decide_eq_true new)

private theorem unmetOf_cons_of_old (old : n.id ∈ met) : unmetOf met (n :: ns) = unmetOf met ns :=
  List.filter_cons_of_neg (by simpa using old)

private theorem unmetOf_eq_nil (old : ∀ n ∈ ns, n.id ∈ met) : unmetOf met ns = [] :=
  List.filter_eq_nil_iff.mpr fun n member => by simpa using old n member

/-- Elements of other trees do not count. -/
private theorem unmetOf_extend (apart : ∀ i ∈ extra.map Node.id, i ∉ idsOfAll cs) :
    unmetOf (w.extend extra).met (nodesOfAll cs) = unmetOf w.met (nodesOfAll cs) := by
  refine List.filter_congr fun n member => ?_
  have fresh : n.id ∉ extra.map Node.id := fun old => apart _ old (List.mem_map_of_mem member)
  simp only [Walk.mem_met_extend, fresh, false_or]

private theorem MetWhole.extend (whole : MetWhole w.met cs)
    (apart : ∀ i ∈ extra.map Node.id, i ∉ idsOfAll cs) : MetWhole (w.extend extra).met cs := by
  intro t within member n below
  rw [Walk.mem_met_extend] at member ⊢
  rcases member with member | member
  · exact absurd within.id_mem (apart _ member)
  · exact .inr (whole t within member n below)

namespace Document

/-! ### One step -/

theorem visitAll_nil : (d.visitAll w []).1 = w := by
  rw [visitAll]

theorem visitAll_cons : (d.visitAll w (id :: ids)).1 = (d.visitAll (d.visit w id).1 ids).1 := by
  rw [visitAll]

theorem visit_of_old (old : id ∈ w.met) : (d.visit w id).1 = w := by
  rw [visit, dif_pos old]

theorem visit_of_unknown (unknown : d.resolve? id = none) : (d.visit w id).1 = w := by
  rw [visit]
  split
  · rfl
  · split
    · rfl
    · rename_i known
      rw [unknown] at known
      cases known

theorem visit_of_new (new : id ∉ w.met) (known : d.resolve? id = some n) : (d.visit w id).1 =
    (d.visitAll ⟨id :: w.met, w.found ++ [n]⟩ ((d.childrenOf id).getD [])).1 := by
  rw [visit, dif_neg new]
  split
  · rename_i unknown
    rw [known] at unknown
    cases unknown
  · rename_i known'
    rw [known] at known'
    cases known'
    rfl

/-- The top of a subtree that is new is listed first, and then its children are visited. -/
private theorem Sound.visit_content (sound : d.Sound ts) (within : Within t ts)
    (new : t.content.id ∉ w.met) : (d.visit w t.content.id).1 =
      (d.visitAll (w.extend [t.content.toNode])
        ((t.children.getD []).map (·.content.id))).1 := by
  have known : d.resolve? t.content.id = some t.content.toNode := by
    rw [sound.resolve?_iff, sound.nodes_eq]
    exact ⟨within.content_mem, rfl⟩
  rw [visit_of_new new known, sound.childrenOf_content within]
  cases t.children <;> rfl

/-- A walk over a part of the forest adds exactly what has not been met, in order. -/
theorem Sound.visitAll_contents (sound : d.Sound ts) (inside : ∀ t, Within t cs → Within t ts)
    (distinct : (idsOfAll cs).Nodup) (whole : MetWhole w.met cs) :
    (d.visitAll w (cs.map (·.content.id))).1 = w.extend (unmetOf w.met (nodesOfAll cs)) := by
  induction cs using forest_induction generalizing w with
  | nil => rw [List.map_nil, visitAll_nil, nodesOfAll_nil, unmetOf, List.filter_nil, Walk.extend_nil]
  | leaf e m cs ih =>
    rw [idsOfAll_leaf, List.nodup_cons] at distinct
    have others : ∀ t, Within t cs → Within t ts := fun t within => inside t (.later within)
    have rest : MetWhole w.met cs := fun t within => whole t (.later within)
    rw [List.map_cons, visitAll_cons, nodesOfAll_leaf, content_node]
    by_cases old : e.id ∈ w.met
    · rw [visit_of_old old, ih others distinct.2 rest, unmetOf_cons_of_old old]
    · have apart : ∀ i ∈ [e.toNode].map Node.id, i ∉ idsOfAll cs := by simpa using distinct.1
      have step := sound.visit_content (inside _ .here) old
      rw [content_node, children_node, Option.getD_none, List.map_nil, visitAll_nil] at step
      rw [step, ih others distinct.2 (rest.extend apart), unmetOf_extend apart,
        unmetOf_cons_of_new old, Walk.extend_extend, List.singleton_append]
  | inner e below m cs ih ih' =>
    rw [idsOfAll_inner, List.nodup_cons, List.nodup_append', List.mem_append, not_or] at distinct
    obtain ⟨⟨topBelow, topAfter⟩, belowDistinct, afterDistinct, disjoint⟩ := distinct
    have others : ∀ t, Within t cs → Within t ts := fun t within => inside t (.later within)
    have rest : MetWhole w.met cs := fun t within => whole t (.later within)
    rw [List.map_cons, visitAll_cons, nodesOfAll_inner, ← List.cons_append, unmetOf_append,
      content_node]
    by_cases old : e.id ∈ w.met
    · have met : ∀ x ∈ e.toNode :: nodesOfAll below, x.id ∈ w.met := whole _ .here old
      rw [visit_of_old old, ih' others afterDistinct rest, unmetOf_eq_nil met, List.nil_append]
    · have apart : ∀ i ∈ [e.toNode].map Node.id, i ∉ idsOfAll below := by simpa using topBelow
      have under : MetWhole w.met below := fun t within => whole t (.under rfl within)
      -- the new elements of this tree are none of the other trees
      have apart' : ∀ i ∈ (e.toNode :: unmetOf w.met (nodesOfAll below)).map Node.id,
          i ∉ idsOfAll cs := by
        intro i member
        rcases List.mem_cons.mp member with rfl | member
        · exact topAfter
        · obtain ⟨x, new, rfl⟩ := List.mem_map.mp member
          exact disjoint (List.mem_map_of_mem (mem_unmetOf.mp new).1)
      have step := sound.visit_content (inside _ .here) old
      rw [content_node, children_node, Option.getD_some,
        ih (fun t within => inside t (.under rfl within)) belowDistinct (under.extend apart),
        unmetOf_extend apart, Walk.extend_extend, List.singleton_append] at step
      rw [step, ih' others afterDistinct (rest.extend apart'), unmetOf_extend apart',
        unmetOf_cons_of_new old, Walk.extend_extend]

/-! ### Visits of subtrees that may overlap -/

/-- A visit of any subtree of the forest adds what has not been met of it. -/
theorem Sound.visit_eq_extend (sound : d.Sound ts) (within : Within u ts)
    (whole : MetWhole w.met ts) :
    (d.visit w u.content.id).1 = w.extend (unmetOf w.met u.nodes) := by
  have distinct : (idsOfAll [u]).Nodup := by
    refine (List.Sublist.map Node.id ?_).nodup sound.distinct
    rw [nodesOfAll_cons, nodesOfAll_nil, List.append_nil]
    exact within.nodes_block.sublist
  have alone : MetWhole w.met [u] := fun t inner => whole t (inner.of_singleton within)
  have visited := sound.visitAll_contents (fun t inner => inner.of_singleton within) distinct alone
  rwa [List.map_singleton, visitAll_cons, visitAll_nil, nodesOfAll_cons, nodesOfAll_nil,
    List.append_nil] at visited

end Document

/-- A subtree whose top stands in another one stands in it as a whole. -/
theorem Within.of_id_mem (distinct : (idsOfAll ts).Nodup) (outer : Within u ts)
    (inner : Within t ts) (member : t.content.id ∈ u.nodes.map Node.id) : Within t [u] := by
  obtain ⟨n, inside, same⟩ := List.mem_map.mp member
  obtain ⟨v, within, rfl⟩ := mem_nodes.mp inside
  rwa [inner.unique distinct (within.of_singleton outer) same.symm]

theorem Within.nodes_subset (within : Within t [u]) : t.nodes ⊆ u.nodes := by
  have listed := within.nodes_block.subset
  rwa [nodesOfAll_cons, nodesOfAll_nil, List.append_nil] at listed

/-- After a visit it still holds that what has been met has been met as a whole. -/
theorem MetWhole.visit (distinct : (idsOfAll ts).Nodup) (within : Within u ts)
    (whole : MetWhole w.met ts) : MetWhole (w.extend (unmetOf w.met u.nodes)).met ts := by
  intro t inner member n below
  rw [Walk.mem_met_extend] at member ⊢
  rcases member with member | member
  · have top : t.content.id ∈ u.nodes.map Node.id :=
      (List.Sublist.map _ List.filter_sublist).subset member
    have inside := (Within.of_id_mem distinct within inner top).nodes_subset below
    by_cases old : n.id ∈ w.met
    · exact .inr old
    · exact .inl (List.mem_map_of_mem (mem_unmetOf.mpr ⟨inside, old⟩))
  · exact .inr (whole t inner member n below)

/-- Elements of a forest with distinct ids are told apart by them. -/
theorem eq_of_id_eq (distinct : (idsOfAll ts).Nodup) {x y : Node} (hx : x ∈ nodesOfAll ts)
    (hy : y ∈ nodesOfAll ts) (same : x.id = y.id) : x = y :=
  List.inj_on_of_nodup_map distinct hx hy same

theorem nodup_of_idsOfAll (distinct : (idsOfAll ts).Nodup) : (nodesOfAll ts).Nodup :=
  List.Nodup.of_map _ distinct

private theorem eraseDups_of_nodup {ns : List Node} (distinct : ns.Nodup) : ns.eraseDups = ns := by
  induction ns with
  | nil => rfl
  | cons n ns ih =>
    rw [List.nodup_cons] at distinct
    have kept : ns.filter (fun x => !x == n) = ns := by
      refine List.filter_eq_self.mpr fun x member => ?_
      have differ : x ≠ n := fun same => distinct.1 (same ▸ member)
      simpa using differ
    rw [List.eraseDups_cons, kept, ih distinct.2]

private theorem nodup_eraseDups (ns : List Node) : ns.eraseDups.Nodup := by
  induction len : ns.length using Nat.strong_induction_on generalizing ns with
  | _ k ih =>
    cases ns with
    | nil => exact List.nodup_nil
    | cons n ns =>
      have shorter : (ns.filter fun x => !x == n).length < k := by
        rw [← len, List.length_cons]
        exact Nat.lt_succ_of_le (List.length_filter_le _ _)
      rw [List.eraseDups_cons, List.nodup_cons]
      refine ⟨?_, ih _ shorter _ rfl⟩
      simp

/-- The subtrees that these ids stand on, without the ids that no element has. -/
def subtreesOf (ts : List Tree) (ids : List NodeId) : List Tree :=
  ids.filterMap (findInAll? · ts)

theorem mem_subtreesOf (distinct : (idsOfAll ts).Nodup) :
    t ∈ subtreesOf ts ids ↔ Within t ts ∧ t.content.id ∈ ids := by
  simp only [subtreesOf, List.mem_filterMap, findInAll?_eq_some_iff distinct]
  constructor
  · rintro ⟨id, given, within, rfl⟩
    exact ⟨within, given⟩
  · rintro ⟨within, given⟩
    exact ⟨_, given, within, rfl⟩

private theorem removeAll_unmetOf (distinct : (idsOfAll ts).Nodup) (within : Within u ts)
    (listed : ns ⊆ nodesOfAll ts) : (unmetOf w.met ns).removeAll (unmetOf w.met u.nodes) =
      unmetOf (w.extend (unmetOf w.met u.nodes)).met ns := by
  change ((ns.filter (·.id ∉ w.met)).filter fun x => !(unmetOf w.met u.nodes).elem x) =
    ns.filter (·.id ∉ (w.extend (unmetOf w.met u.nodes)).met)
  rw [List.filter_filter]
  refine List.filter_congr fun n member => ?_
  have same : n ∈ unmetOf w.met u.nodes ↔ n.id ∈ (unmetOf w.met u.nodes).map Node.id := by
    refine ⟨List.mem_map_of_mem, fun old => ?_⟩
    obtain ⟨x, new, same⟩ := List.mem_map.mp old
    have known := within.nodes_block.subset (mem_unmetOf.mp new).1
    rwa [← eq_of_id_eq distinct known (listed member) same]
  simp [Walk.mem_met_extend, ← same]

namespace Document

/-- Visiting subtrees adds their elements in order, each at its first occurrence. -/
theorem Sound.visitAll_found (sound : d.Sound ts) (whole : MetWhole w.met ts) :
    (d.visitAll w ids).1.found =
      w.found ++ (unmetOf w.met ((subtreesOf ts ids).flatMap Tree.nodes)).eraseDups := by
  induction ids generalizing w with
  | nil => rw [visitAll_nil]; exact (List.append_nil w.found).symm
  | cons id ids ih =>
    rw [visitAll_cons, subtreesOf, List.filterMap_cons]
    cases found : findInAll? id ts with
    | none =>
      have unknown := sound.resolve?_eq_none_iff.mpr (findInAll?_eq_none_iff.mp found)
      rw [visit_of_unknown unknown, ih whole]
      rfl
    | some u =>
      obtain ⟨within, rfl⟩ := within_of_findInAll? found
      have others : (subtreesOf ts ids).flatMap Tree.nodes ⊆ nodesOfAll ts := by
        intro n member
        obtain ⟨t, listed, below⟩ := List.mem_flatMap.mp member
        exact ((mem_subtreesOf sound.distinct).mp listed).1.nodes_block.subset below
      have once : (unmetOf w.met u.nodes).Nodup :=
        (List.filter_sublist.trans within.nodes_block.sublist).nodup
          (nodup_of_idsOfAll sound.distinct)
      rw [sound.visit_eq_extend within whole, ih (whole.visit sound.distinct within)]
      dsimp only
      rw [List.flatMap_cons, unmetOf_append, List.eraseDups_append, eraseDups_of_nodup once,
        ← List.append_assoc]
      refine congrArg₂ _ rfl (congrArg _ ?_)
      exact (removeAll_unmetOf sound.distinct within others).symm

/-! ### Collecting -/

/-- Collecting keeps of every element below the given ones its first occurrence. -/
theorem Sound.collect_eq (sound : d.Sound ts) (ids : List NodeId) :
    d.collect ids = ((subtreesOf ts ids).flatMap Tree.nodes).eraseDups := by
  have all : unmetOf [] ((subtreesOf ts ids).flatMap Tree.nodes) =
      (subtreesOf ts ids).flatMap Tree.nodes :=
    List.filter_eq_self.mpr fun n _ => by simp
  rw [collect, sound.visitAll_found (fun t _ old => absurd old List.not_mem_nil), all,
    List.nil_append]

theorem Sound.mem_collect (sound : d.Sound ts) :
    n ∈ d.collect ids ↔ ∃ t, Within t ts ∧ t.content.id ∈ ids ∧ n ∈ t.nodes := by
  rw [sound.collect_eq, List.mem_eraseDups, List.mem_flatMap]
  simp only [mem_subtreesOf sound.distinct, and_assoc]

theorem Sound.collect_subset (sound : d.Sound ts) : d.collect ids ⊆ d.nodes := by
  intro n member
  obtain ⟨t, within, -, below⟩ := sound.mem_collect.mp member
  rw [sound.nodes_eq]
  exact within.nodes_block.subset below

theorem Sound.nodup_collect (sound : d.Sound ts) (ids : List NodeId) : (d.collect ids).Nodup := by
  rw [sound.collect_eq]
  exact nodup_eraseDups _

theorem Sound.nodup_collect_ids (sound : d.Sound ts) (ids : List NodeId) :
    ((d.collect ids).map Node.id).Nodup := by
  refine (sound.nodup_collect ids).map_on fun x hx y hy same => ?_
  have listed {x : Node} (member : x ∈ d.collect ids) : x ∈ nodesOfAll ts := by
    rw [← sound.nodes_eq]
    exact sound.collect_subset member
  exact eq_of_id_eq sound.distinct (listed hx) (listed hy) same

/-! ### Subtrees and ancestors -/

/-- From what stands within some trees a chain of parents leads to wherever their tops lead. -/
private theorem Sound.chain_of_within (sound : d.Sound ts) {top : NodeId} (within : Within u cs)
    (inside : ∀ x ∈ cs, Within x ts)
    (up : ∀ x ∈ cs, Relation.ReflTransGen d.ChildOf x.content.id top) :
    Relation.ReflTransGen d.ChildOf u.content.id top := by
  induction within with
  | here => exact up _ List.mem_cons_self
  | @under v below cs given _ ih =>
    have outer : Within v ts := inside v List.mem_cons_self
    refine ih (fun x member => outer.trans given (.of_mem member)) fun x member => ?_
    have child : d.ChildOf x.content.id v.content.id :=
      sound.childOf_iff_within.mpr ⟨v, outer, below, given, rfl, x, member, rfl⟩
    exact .head child (up v List.mem_cons_self)
  | later _ ih =>
    exact ih (fun x member => inside x (List.mem_cons_of_mem _ member))
      (fun x member => up x (List.mem_cons_of_mem _ member))

/-- The elements of a subtree are those from which the parents lead to its top. -/
theorem Sound.mem_nodes_iff_chain (sound : d.Sound ts) (outer : Within t ts)
    (known : n ∈ nodesOfAll ts) :
    n ∈ t.nodes ↔ Relation.ReflTransGen d.ChildOf n.id t.content.id := by
  constructor
  · intro below
    obtain ⟨u, within, rfl⟩ := mem_nodes.mp below
    exact sound.chain_of_within within (by simpa using outer) (by simpa using .refl)
  · intro chain
    have reached : n.id ∈ t.nodes.map Node.id := by
      refine Relation.ReflTransGen.head_induction_on chain
        (List.mem_map_of_mem (f := Node.id) (content_mem_nodes t)) fun {a b} child _ ih => ?_
      obtain ⟨v, within, cs, given, rfl, u, member, rfl⟩ := sound.childOf_iff_within.mp child
      have inner : Within v [t] := Within.of_id_mem sound.distinct outer within ih
      exact List.mem_map_of_mem (f := Node.id)
        (mem_nodes.mpr ⟨u, inner.trans given (.of_mem member), rfl⟩)
    obtain ⟨x, below, same⟩ := List.mem_map.mp reached
    rwa [← eq_of_id_eq sound.distinct (outer.nodes_block.subset below) known same]

/-- An element is collected if it or one of its ancestors is among the given ones. -/
theorem Sound.mem_collect_iff_chain (sound : d.Sound ts) :
    n ∈ d.collect ids ↔ n ∈ d.nodes ∧ ∃ id ∈ ids, Relation.ReflTransGen d.ChildOf n.id id := by
  rw [sound.mem_collect, sound.nodes_eq]
  constructor
  · rintro ⟨t, within, given, below⟩
    have known := within.nodes_block.subset below
    exact ⟨known, _, given, (sound.mem_nodes_iff_chain within known).mp below⟩
  · rintro ⟨known, id, given, chain⟩
    have resolved : id ∈ idsOfAll ts := by
      rcases chain.cases_tail with rfl | ⟨b, -, child⟩
      · exact List.mem_map_of_mem known
      · obtain ⟨v, within, -, -, rfl, -⟩ := sound.childOf_iff_within.mp child
        exact within.id_mem
    obtain ⟨t, within, rfl⟩ := mem_idsOfAll.mp resolved
    exact ⟨t, within, given, (sound.mem_nodes_iff_chain within known).mpr chain⟩

/-! ### Document order -/

private theorem Sound.position_eq (sound : d.Sound ts) (id : NodeId) :
    d.position id = (idsOfAll ts).idxOf id := by
  rw [position, sound.ids_eq]

/-- What stands outside a subtree and not in front of its top comes after all of it. -/
private theorem Sound.position_lt_of_outside (sound : d.Sound ts) (within : Within t ts)
    {i : NodeId} (notBefore : d.position t.content.id ≤ d.position i)
    (outside : i ∉ t.nodes.map Node.id) (inside : n ∈ t.nodes) :
    d.position n.id < d.position i := by
  obtain ⟨before, after, split⟩ := within.nodes_block
  have whole : idsOfAll ts =
      before.map Node.id ++ (t.nodes.map Node.id ++ after.map Node.id) := by
    rw [idsOfAll, ← split, List.map_append, List.map_append, List.append_assoc]
  have distinct := sound.distinct
  rw [whole] at distinct
  obtain ⟨-, -, apart⟩ := List.nodup_append'.mp distinct
  have place {j : NodeId} (member : j ∈ t.nodes.map Node.id) :
      d.position j = before.length + (t.nodes.map Node.id).idxOf j := by
    rw [sound.position_eq, whole, List.idxOf_append_of_notMem
      (fun old => apart old (List.mem_append_left _ member)),
      List.idxOf_append_of_mem member, List.length_map]
  have top : d.position t.content.id = _ :=
    place (List.mem_map_of_mem (f := Node.id) (content_mem_nodes t))
  have fresh : i ∉ before.map Node.id := by
    intro old
    have early : d.position i < before.length := by
      rw [sound.position_eq, whole, List.idxOf_append_of_mem old]
      simpa using List.idxOf_lt_length_of_mem old
    omega
  have late : d.position i = before.length + (t.nodes.length +
      (after.map Node.id).idxOf i) := by
    rw [sound.position_eq, whole, List.idxOf_append_of_notMem fresh,
      List.idxOf_append_of_notMem outside, List.length_map, List.length_map]
  have short : (t.nodes.map Node.id).idxOf n.id < t.nodes.length := by
    simpa using List.idxOf_lt_length_of_mem (List.mem_map_of_mem (f := Node.id) inside)
  rw [place (List.mem_map_of_mem inside), late]
  omega

private theorem Sound.pairwise_position (sound : d.Sound ts) :
    (nodesOfAll ts).Pairwise fun x y => d.position x.id < d.position y.id := by
  rw [List.pairwise_iff_getElem]
  intro i j hi hj early
  have place (k : Nat) (hk : k < (nodesOfAll ts).length) :
      d.position (nodesOfAll ts)[k].id = k := by
    have := sound.distinct.idxOf_getElem k (by simpa [idsOfAll] using hk)
    simpa [sound.position_eq, idsOfAll] using this
  rw [place i hi, place j hj]
  exact early

/-- Elements that come in document order make up a part of the listing. -/
private theorem Sound.sublist_of_pairwise (sound : d.Sound ts) (known : ns ⊆ nodesOfAll ts)
    (ordered : ns.Pairwise fun x y => d.position x.id < d.position y.id) :
    ns.Sublist (nodesOfAll ts) := by
  have once : ns.Nodup := ordered.imp fun less same => by simp [same] at less
  have : Std.Antisymm fun x y : Node => d.position x.id < d.position y.id :=
    ⟨fun _ _ less less' => absurd (less.trans less') (lt_irrefl _)⟩
  exact List.sublist_of_subperm_of_pairwise (List.subperm_of_subset once known) ordered
    sound.pairwise_position

private theorem Sound.pairwise_position_nodes (sound : d.Sound ts) (within : Within t ts) :
    t.nodes.Pairwise fun x y => d.position x.id < d.position y.id :=
  sound.pairwise_position.sublist within.nodes_block.sublist

/-- No element of a subtree stands in front of its top. -/
private theorem Sound.position_le_of_mem (sound : d.Sound ts) (within : Within t ts)
    (below : n ∈ t.nodes) : d.position t.content.id ≤ d.position n.id := by
  have ordered := sound.pairwise_position_nodes within
  rw [nodes_eq_cons] at below ordered
  rcases List.mem_cons.mp below with rfl | below
  · exact le_rfl
  · exact ((List.pairwise_cons.mp ordered).1 n below).le

/-- What a visit adds comes after the subtree of any earlier top that has been met. -/
private theorem Sound.position_lt_of_unmet (sound : d.Sound ts) (whole : MetWhole met ts)
    (outer : Within t ts) (top : t.content.id ∈ met) (within : Within u ts)
    (early : d.position t.content.id ≤ d.position u.content.id) (unmet : n ∈ unmetOf met u.nodes)
    {m : Node} (inside : m ∈ t.nodes) : d.position m.id < d.position n.id := by
  obtain ⟨below, fresh⟩ := mem_unmetOf.mp unmet
  have outside : n.id ∉ t.nodes.map Node.id := by
    intro listed
    obtain ⟨y, below', same⟩ := List.mem_map.mp listed
    exact fresh (same ▸ whole t outer top y below')
  have notBefore : d.position t.content.id ≤ d.position n.id :=
    early.trans (sound.position_le_of_mem within below)
  exact sound.position_lt_of_outside outer notBefore outside inside

/-- Visits whose tops come in document order add elements in document order. Of what has been met
the proof remembers the subtrees: a further top stands in one of them or after all of it. -/
private theorem Sound.pairwise_visitAll (sound : d.Sound ts)
    (order : (subtreesOf ts ids).Pairwise fun u v =>
      d.position u.content.id ≤ d.position v.content.id)
    (whole : MetWhole w.met ts)
    (blocks : ∀ m ∈ w.found, ∃ t, Within t ts ∧ m ∈ t.nodes ∧ t.content.id ∈ w.met ∧
      ∀ u ∈ subtreesOf ts ids, d.position t.content.id ≤ d.position u.content.id)
    (ordered : w.found.Pairwise fun x y => d.position x.id < d.position y.id) :
    (d.visitAll w ids).1.found.Pairwise fun x y => d.position x.id < d.position y.id := by
  induction ids generalizing w with
  | nil => rwa [visitAll_nil]
  | cons id ids ih =>
    rw [subtreesOf, List.filterMap_cons] at order blocks
    rw [visitAll_cons]
    cases found : findInAll? id ts with
    | none =>
      rw [found] at order blocks
      have unknown := sound.resolve?_eq_none_iff.mpr (findInAll?_eq_none_iff.mp found)
      rw [visit_of_unknown unknown]
      exact ih order whole blocks ordered
    | some u =>
      rw [found] at order blocks
      obtain ⟨within, rfl⟩ := within_of_findInAll? found
      obtain ⟨later, order⟩ := List.pairwise_cons.mp order
      rw [sound.visit_eq_extend within whole]
      refine ih order (whole.visit sound.distinct within) ?_ ?_
      · intro m member
        rcases List.mem_append.mp member with old | new
        · obtain ⟨t, outer, inside, top, early⟩ := blocks m old
          refine ⟨t, outer, inside, Walk.mem_met_extend.mpr (.inr top), fun x member => ?_⟩
          exact early x (List.mem_cons_of_mem _ member)
        · refine ⟨u, within, (mem_unmetOf.mp new).1, Walk.mem_met_extend.mpr ?_, later⟩
          by_cases old : u.content.id ∈ w.met
          · exact .inr old
          · exact .inl (List.mem_map_of_mem (f := Node.id)
              (mem_unmetOf.mpr ⟨content_mem_nodes u, old⟩))
      · refine List.pairwise_append.mpr ⟨ordered, ?_, fun m old x new => ?_⟩
        · exact (sound.pairwise_position_nodes within).sublist List.filter_sublist
        · obtain ⟨t, outer, inside, top, early⟩ := blocks m old
          exact sound.position_lt_of_unmet whole outer top within (early u List.mem_cons_self) new
            inside

private theorem Sound.map_subtreesOf (sound : d.Sound ts) (ids : List NodeId) :
    (subtreesOf ts ids).map (·.content.id) = ids.filter fun id => (d.resolve? id).isSome := by
  induction ids with
  | nil => rfl
  | cons id ids ih =>
    rw [subtreesOf, List.filterMap_cons, List.filter_cons]
    cases found : findInAll? id ts with
    | none =>
      rw [sound.resolve?_eq_none_iff.mpr (findInAll?_eq_none_iff.mp found)]
      exact ih
    | some t =>
      obtain ⟨within, rfl⟩ := within_of_findInAll? found
      rw [if_pos (sound.isSome_resolve?_iff.mpr within.id_mem), ← ih]
      rfl

/-- Tops that come in document order are collected in document order. -/
theorem Sound.collect_sublist (sound : d.Sound ts)
    (order : (ids.filter fun id => (d.resolve? id).isSome).Pairwise
      fun i j => d.position i ≤ d.position j) : (d.collect ids).Sublist d.nodes := by
  rw [← sound.map_subtreesOf, List.pairwise_map] at order
  rw [sound.nodes_eq]
  refine sound.sublist_of_pairwise (sound.nodes_eq ▸ sound.collect_subset) ?_
  exact sound.pairwise_visitAll order (fun t _ old => absurd old List.not_mem_nil)
    (fun m old => absurd old List.not_mem_nil) List.Pairwise.nil

/-- All trees of the document together are the document. -/
theorem Sound.collect_roots (sound : d.Sound ts) : d.collect d.roots = d.nodes := by
  have roots : d.roots = ts.map (·.content.id) := by
    rw [sound.tables]
    rfl
  have found : subtreesOf ts d.roots = ts := by
    rw [roots, subtreesOf, List.filterMap_map]
    refine (List.filterMap_congr fun t member => ?_).trans List.filterMap_some
    exact (findInAll?_eq_some_iff sound.distinct).mpr ⟨.of_mem member, rfl⟩
  rw [sound.collect_eq, found, ← nodesOfAll_eq_flatMap, sound.nodes_eq]
  exact eraseDups_of_nodup (nodup_of_idsOfAll sound.distinct)

theorem selection_of_ofSnapshot (made : ofSnapshot ⟨none, ts⟩ = .ok d) : d.selection = d.roots := by
  rw [ofSnapshot_eq, Outcome.bind_eq_ok] at made
  obtain ⟨d', filled, same⟩ := made
  cases same
  obtain ⟨-, rfl⟩ := unlessFault_eq_ok.mp filled
  rfl

/-! ### What a scan looks at -/

/-- What is collected below some ids, whatever they are. -/
structure CollectsWell (d : Document) (ts : List Tree) (ids : List NodeId) : Prop where
  listed : d.collect ids = ((subtreesOf ts ids).flatMap Tree.nodes).eraseDups
  distinct : ((d.collect ids).map Node.id).Nodup
  member : ∀ n, n ∈ d.collect ids ↔
    n ∈ d.nodes ∧ ∃ id ∈ ids, Relation.ReflTransGen d.ChildOf n.id id
  whole : ∀ t, Within t ts → t.content.id ∈ ids → t.nodes ⊆ d.collect ids
  ordered : (ids.filter fun id => (d.resolve? id).isSome).Pairwise
    (fun i j => d.position i ≤ d.position j) → (d.collect ids).Sublist d.nodes

theorem Sound.collectsWell (sound : d.Sound ts) (ids : List NodeId) : d.CollectsWell ts ids where
  listed := sound.collect_eq ids
  distinct := sound.nodup_collect_ids ids
  member _ := sound.mem_collect_iff_chain
  whole t within given _ below := sound.mem_collect.mpr ⟨t, within, given, below⟩
  ordered order := sound.collect_sublist order

/-- What a scan of the selection does before any rule is judged: it needs a selection, and counts
what has been collected. -/
structure ScansWell (d : Document) : Prop where
  refused : ∀ t rules, Report.ofSelection d t rules = .error .emptySelection ↔ d.selection = []
  counted : ∀ t rules, d.selection ≠ [] → ∃ r, Report.ofSelection d t rules = .ok r ∧
    r.nodesScanned = (d.collect d.selection).length

theorem scansWell (d : Document) : d.ScansWell where
  refused t rules := by
    rw [Report.ofSelection, ← List.isEmpty_iff]
    split <;> simp_all
  counted t rules given := by
    rw [Report.ofSelection, if_neg (by simpa using given)]
    exact ⟨_, rfl, rfl⟩

/-- Collecting keeps of the subtrees below the given ids every element once, at its first
occurrence; from the tops of the document, and so by default, it collects the document. -/
theorem collect_firstOccurrences (reachable : Reachable ts d) :
    (∀ ids, d.CollectsWell ts ids) ∧ d.collect d.roots = d.nodes ∧
      (∀ cs, ofSnapshot ⟨none, cs⟩ = .ok d → d.collect d.selection = d.nodes) ∧ d.ScansWell := by
  have sound := reachable.sound
  refine ⟨sound.collectsWell, sound.collect_roots, fun cs made => ?_, scansWell d⟩
  rw [selection_of_ofSnapshot made, sound.collect_roots]

/-- An unknown id, a part before its whole, and a repetition. -/
theorem collect_firstOccurrences_bulletin :
    bulletinDocument.CollectsWell bulletin.trees ["gone", "card", "page", "title", "card"] ∧
      (bulletinDocument.collect ["gone", "card", "page", "title", "card"]).map Node.id =
        ["card", "title", "page", "footer"] ∧
      bulletinDocument.collect bulletinDocument.roots = bulletinDocument.nodes := by
  obtain ⟨collects, whole, -, -⟩ := collect_firstOccurrences (.made ofSnapshot_bulletin)
  refine ⟨collects _, ?_, whole⟩
  rw [(collects _).listed]
  decide +kernel

end Document

end CanvasLint.Canvas
