import CanvasLint.Canvas.Background
import CanvasLint.Proofs.Canvas.Views

/-! What an element is seen against, read off the snapshot. The color behind an element is that of
the nearest element around it that has one. Looking for it means going from parent to parent, which
leads strictly towards the front of the document and so comes to an end; nothing but the elements
around it has a say. -/
namespace CanvasLint.Canvas

/-- A subtree stands in the forest below these others, the nearest first. -/
inductive Lineage (ts : List Tree) : Tree → List Tree → Prop
  | root {t : Tree} (member : t ∈ ts) : Lineage ts t []
  | child {t u : Tree} {cs above : List Tree} (lineage : Lineage ts t above)
      (given : t.children = some cs) (member : u ∈ cs) : Lineage ts u (t :: above)

/-- The color of the first of these elements that has one, white if none has. -/
def nearestColor (above : List Tree) : Rgb :=
  (above.findSome? fun t => t.content.toNode.fills.solidColor?).getD .white

namespace Document

/-- The color of the fills of an element. -/
def colorOf (d : Document) (id : NodeId) : Option Rgb :=
  (d.resolve? id).bind fun n => n.fills.solidColor?

/-- A search that begins at an element, if there is one to begin at, and goes on to its parent as
long as no color has been found: the elements that it visits, and the color with which it ends. -/
inductive Search (d : Document) : Option NodeId → List NodeId → Rgb → Prop
  | outside : Search d none [] .white
  | colored {id : NodeId} {color : Rgb} (found : d.colorOf id = some color) :
      Search d (some id) [id] color
  | plain {id : NodeId} {visited : List NodeId} {color : Rgb} (none : d.colorOf id = none)
      (rest : Search d (d.parentOf id) visited color) : Search d (some id) (id :: visited) color

end Document

variable {d : Document} {ts cs above : List Tree} {t u : Tree} {id : NodeId}
  {start : Option NodeId} {visited visited' : List NodeId} {color color' : Rgb}

/-! ### What stands around an element -/

theorem Lineage.within (lineage : Lineage ts t above) : Within t ts := by
  induction lineage with
  | root member => exact .of_mem member
  | child _ given member ih => exact ih.trans given (.of_mem member)

/-- Around a forest that stands below an element, that element comes last. -/
theorem Lineage.under (lineage : Lineage cs t above) (member : u ∈ ts)
    (given : u.children = some cs) : Lineage ts t (above ++ [u]) := by
  induction lineage with
  | root child => exact .child (.root member) given child
  | child _ given' child ih => exact .child ih given' child

theorem Lineage.later (lineage : Lineage ts t above) (u : Tree) : Lineage (u :: ts) t above := by
  induction lineage with
  | root member => exact .root (List.mem_cons_of_mem _ member)
  | child _ given child ih => exact .child ih given child

theorem Within.exists_lineage (within : Within t ts) : ∃ above, Lineage ts t above := by
  induction within with
  | here => exact ⟨[], .root List.mem_cons_self⟩
  | under given _ ih =>
    obtain ⟨above, lineage⟩ := ih
    exact ⟨above ++ [_], lineage.under List.mem_cons_self given⟩
  | later _ ih =>
    obtain ⟨above, lineage⟩ := ih
    exact ⟨above, lineage.later _⟩

namespace Document

/-! ### Going from parent to parent -/

/-- There is no choice on the way. -/
theorem Search.unique (search : d.Search start visited color)
    (search' : d.Search start visited' color') : visited = visited' ∧ color = color' := by
  induction search generalizing visited' color' with
  | outside => cases search'; exact ⟨rfl, rfl⟩
  | colored found =>
    cases search' with
    | colored found' => exact ⟨rfl, Option.some.inj (found.symm.trans found')⟩
    | plain none => rw [none] at found; cases found
  | plain none _ ih =>
    cases search' with
    | colored found => rw [none] at found; cases found
    | plain _ rest =>
      obtain ⟨rfl, rfl⟩ := ih rest
      exact ⟨rfl, rfl⟩

/-- Every step leads towards the front, so that there are no more steps than elements in front of
the one where the search began. -/
theorem Sound.search_descends (sound : d.Sound ts)
    (search : d.Search (d.parentOf id) visited color) :
    ((id :: visited).map d.position).Pairwise (· > ·) ∧ visited.length ≤ d.position id := by
  generalize parent : d.parentOf id = start at search
  induction search generalizing id with
  | outside => exact ⟨List.pairwise_singleton _ _, Nat.zero_le _⟩
  | colored found =>
    have lt := sound.position_lt parent
    exact ⟨List.pairwise_pair.mpr lt, Nat.succ_le_of_lt (Nat.zero_lt_of_lt lt)⟩
  | @plain p visited color none rest ih =>
    have lt := sound.position_lt parent
    obtain ⟨descends, few⟩ := ih rfl
    refine ⟨List.pairwise_cons.mpr ⟨fun i member => ?_, descends⟩, Nat.lt_of_le_of_lt few lt⟩
    rcases List.mem_cons.mp member with rfl | later
    · exact lt
    · exact Nat.lt_trans ((List.pairwise_cons.mp descends).1 i later) lt

theorem Sound.colorOf_content (sound : d.Sound ts) (within : Within t ts) :
    d.colorOf t.content.id = t.content.toNode.fills.solidColor? := by
  have resolved : d.resolve? t.content.id = some t.content.toNode :=
    sound.resolve?_iff.mpr ⟨sound.nodes_eq ▸ within.content_mem, rfl⟩
  rw [colorOf, resolved, Option.bind_some]

theorem Sound.parentOf_lineage (sound : d.Sound ts) (lineage : Lineage ts t above) :
    d.parentOf t.content.id = above.head?.map (·.content.id) := by
  cases lineage with
  | root member => exact sound.parentOf_root member
  | child lineage given child =>
    exact sound.childOf_iff_within.mpr ⟨_, lineage.within, _, given, rfl, _, child, rfl⟩

/-- A search passes through what stands around the element, and so ends with the nearest color. -/
theorem Sound.color_of_search (sound : d.Sound ts) (lineage : Lineage ts t above)
    (search : d.Search (d.parentOf t.content.id) visited color) : color = nearestColor above := by
  rw [sound.parentOf_lineage lineage] at search
  induction lineage generalizing visited with
  | root => cases search; rfl
  | @child t u cs above lineage given _ ih =>
    rw [nearestColor, List.findSome?_cons, ← sound.colorOf_content lineage.within]
    cases search with
    | colored found => rw [found]; rfl
    | plain none rest =>
      rw [none]
      rw [sound.parentOf_lineage lineage] at rest
      exact ih rest

/-- A parent stands in front of its children. -/
theorem Sound.parent_mem_front (sound : d.Sound ts) {front rest : List Node} {n : Node}
    {parent : NodeId} (whole : d.nodes = front ++ n :: rest)
    (child : d.parentOf n.id = some parent) : parent ∈ front.map Node.id := by
  have ids : d.nodes.map Node.id = front.map Node.id ++ n.id :: rest.map Node.id := by
    rw [whole, List.map_append, List.map_cons]
  have distinct := sound.distinct
  rw [← sound.ids_eq, ids, List.nodup_append'] at distinct
  have fresh : n.id ∉ front.map Node.id := fun old => distinct.2.2 old List.mem_cons_self
  have lt := sound.position_lt child
  rw [position, position, ids, List.idxOf_append_of_notMem fresh, List.idxOf_cons_self] at lt
  by_contra outside
  rw [List.idxOf_append_of_notMem outside] at lt
  exact Nat.not_lt_of_le (Nat.le_add_right _ _) lt

theorem colorFrom_cons (n : Node) (above : List Node) : d.colorFrom id (n :: above) =
    if n.id = id then
      n.fills.solidColor?.getD (((d.parentOf n.id).map (d.colorFrom · above)).getD .white)
    else d.colorFrom id above := by
  rw [colorFrom]
  cases n.fills.solidColor? <;> cases d.parentOf n.id <;> rfl

/-- For an element among the first ones, the pass over these from the last one on is the search that
begins at the element. -/
theorem Sound.exists_search_colorFrom (sound : d.Sound ts) {front rest : List Node}
    (whole : d.nodes = front ++ rest) (member : id ∈ front.map Node.id) :
    ∃ visited, d.Search (some id) visited (d.colorFrom id front.reverse) := by
  induction front using List.reverseRecOn generalizing id rest with
  | nil => cases member
  | append_singleton front n ih =>
    rw [List.reverse_append, List.reverse_singleton, List.singleton_append, colorFrom_cons]
    rw [List.append_assoc] at whole
    by_cases same : n.id = id
    · subst same
      have color : d.colorOf n.id = n.fills.solidColor? := by
        have listed : n ∈ d.nodes := whole ▸ List.mem_append_right _ List.mem_cons_self
        rw [colorOf, sound.resolve?_iff.mpr ⟨listed, rfl⟩, Option.bind_some]
      rw [if_pos rfl]
      cases found : n.fills.solidColor? with
      | some c => exact ⟨_, .colored (color.trans found)⟩
      | none =>
        have onwards : ∃ visited, d.Search (d.parentOf n.id) visited
            (((d.parentOf n.id).map (d.colorFrom · front.reverse)).getD .white) := by
          cases parent : d.parentOf n.id with
          | none => exact ⟨_, .outside⟩
          | some p => exact ih whole (sound.parent_mem_front whole parent)
        obtain ⟨visited, search⟩ := onwards
        exact ⟨_, .plain (color.trans found) search⟩
    · rw [if_neg same]
      exact ih whole (by simpa [Ne.symm same] using member)

/-- The color behind an element is what a search ends with that begins at its parent. -/
theorem Sound.exists_search_backgroundOf (sound : d.Sound ts) (id : NodeId) :
    ∃ visited, d.Search (d.parentOf id) visited (d.backgroundOf id) := by
  rw [backgroundOf]
  cases parent : d.parentOf id with
  | none => exact ⟨_, .outside⟩
  | some p =>
    have known : p ∈ d.nodes.map Node.id := by
      obtain ⟨before, between, after, ids⟩ := sound.split_of_childOf parent
      rw [ids]
      simp
    exact sound.exists_search_colorFrom (List.append_nil _).symm known

/-! ### The color behind an element -/

/-- What can be said of the color behind an element by the forest of the document. -/
structure SeenAgainst (d : Document) (ts : List Tree) (id : NodeId) : Prop where
  nearest : ∀ t above, Lineage ts t above → t.content.id = id →
    d.backgroundOf id = nearestColor above
  /-- Every element of the document has its lineage. -/
  placed : id ∈ d.nodes.map Node.id → ∃ t above, Lineage ts t above ∧ t.content.id = id
  unknown : id ∉ d.nodes.map Node.id → d.backgroundOf id = .white
  root : id ∈ d.roots → d.backgroundOf id = .white
  /-- The search from parent to parent comes to an end, always nearer to the front. -/
  searched : ∃ visited, d.Search (d.parentOf id) visited (d.backgroundOf id) ∧
    ((id :: visited).map d.position).Pairwise (· > ·) ∧ visited.length ≤ d.nodes.length
  only : ∀ visited color, d.Search (d.parentOf id) visited color → color = d.backgroundOf id
  /-- Where the elements around have the same fills, all else may differ. -/
  confined : ∀ ts' d' t t' above above', Reachable ts' d' → Lineage ts t above →
    t.content.id = id → Lineage ts' t' above' →
    above.map (·.content.toNode.fills) = above'.map (·.content.toNode.fills) →
    d.backgroundOf id = d'.backgroundOf t'.content.id

theorem Sound.backgroundOf_lineage (sound : d.Sound ts) (lineage : Lineage ts t above) :
    d.backgroundOf t.content.id = nearestColor above := by
  obtain ⟨visited, search⟩ := sound.exists_search_backgroundOf t.content.id
  exact sound.color_of_search lineage search

theorem Sound.backgroundOf_unknown (sound : d.Sound ts) (unknown : id ∉ d.nodes.map Node.id) :
    d.backgroundOf id = .white := by
  rw [backgroundOf]
  cases parent : d.parentOf id with
  | none => rfl
  | some p =>
    obtain ⟨before, between, after, ids⟩ := sound.split_of_childOf parent
    rw [ids] at unknown
    simp at unknown

theorem nearestColor_eq (above : List Tree) : nearestColor above =
    ((above.map (·.content.toNode.fills)).findSome? Fills.solidColor?).getD .white := by
  rw [nearestColor, List.findSome?_map]
  rfl

/-- An element is seen against the nearest color around it, and against white if there is none, if
the element stands at the top, or if it is unknown. -/
theorem backgroundOf_seenAgainst (reachable : Reachable ts d) (id : NodeId) :
    d.SeenAgainst ts id := by
  have sound := reachable.sound
  obtain ⟨visited, search⟩ := sound.exists_search_backgroundOf id
  have behind : ∀ t above, Lineage ts t above → t.content.id = id →
      d.backgroundOf id = nearestColor above := by
    rintro t above lineage rfl
    exact sound.backgroundOf_lineage lineage
  refine ⟨behind, fun known => ?_, sound.backgroundOf_unknown, fun root => ?_, ?_, ?_, ?_⟩
  · rw [sound.ids_eq, mem_idsOfAll] at known
    obtain ⟨t, within, same⟩ := known
    obtain ⟨above, lineage⟩ := within.exists_lineage
    exact ⟨t, above, lineage, same⟩
  · rw [sound.tables] at root
    obtain ⟨t, member, same⟩ := List.mem_map.mp root
    exact behind t [] (.root member) same
  · obtain ⟨descends, few⟩ := sound.search_descends search
    have bound : d.position id ≤ (d.nodes.map Node.id).length := List.idxOf_le_length
    rw [List.length_map] at bound
    exact ⟨visited, search, descends, few.trans bound⟩
  · exact fun visited' color search' => (search'.unique search).2
  · intro ts' d' t t' above above' reachable' lineage same lineage' fills
    rw [behind t above lineage same, reachable'.sound.backgroundOf_lineage lineage',
      nearestColor_eq, nearestColor_eq, fills]

/-- A red page with a card that has no color of its own and with a title on the card; beside the card
lies a white strip, and beside the page a note. -/
def notice : Snapshot where
  selection := none
  trees := [
    .node { id := "page", kind := .frame, fills := some (.paints [⟨.solid, some ⟨1, 0, 0⟩⟩]) } (some [
      .node { id := "strip", kind := .rectangle, fills := some (.paints [⟨.solid, some ⟨1, 1, 1⟩⟩]) }
        none none,
      .node { id := "card", kind := .frame, fills := some (.paints [⟨.image, none⟩]) } (some [
        .node { id := "title", kind := .text } none none]) none]) none,
    .node { id := "note", kind := .text } none none]

def noticeDocument : Document :=
  ofForest notice.trees ["page", "note"]

theorem ofSnapshot_notice : ofSnapshot notice = .ok noticeDocument := by
  rfl

theorem backgroundOf_seenAgainst_notice :
    noticeDocument.backgroundOf "title" = (⟨1, 0, 0⟩ : Tint).rgb ∧
      noticeDocument.backgroundOf "note" = .white ∧ noticeDocument.backgroundOf "gone" = .white ∧
      ∃ visited, noticeDocument.Search (some "card") visited (⟨1, 0, 0⟩ : Tint).rgb ∧
        visited.length ≤ 5 := by
  have seen := backgroundOf_seenAgainst (.made ofSnapshot_notice)
  have lineage : Lineage notice.trees (.node { id := "title", kind := .text } none none) _ :=
    .child (.child (.root List.mem_cons_self) rfl (List.mem_cons_of_mem _ List.mem_cons_self)) rfl
      List.mem_cons_self
  have red : noticeDocument.backgroundOf "title" = (⟨1, 0, 0⟩ : Tint).rgb :=
    (seen "title").nearest _ _ lineage rfl
  obtain ⟨visited, search, -, few⟩ := (seen "title").searched
  exact ⟨red, (seen "note").root (by decide +kernel), (seen "gone").unknown (by decide +kernel),
    visited, red ▸ search, few⟩

end Document

end CanvasLint.Canvas
