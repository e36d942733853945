import CanvasLint.Canvas.Background
import CanvasLint.Proofs.Canvas.Collection
import CanvasLint.Proofs.Check.Verdicts

/-! Which texts have a color. The check of colors is content with any solid paint that has one,
while an analysis of the contrast looks at the topmost solid paint only. The two disagree about a
text if and only if its topmost solid paint has no color and a solid paint below it has one. -/
namespace CanvasLint

open Canvas (Document Element Fills Node Paint Snapshot Tree)

variable {ps : List Paint} {fills : Fills} {n : Node} {nodes : List Node} {d : Document}
  {ts : List Tree} {rule : Rule} {r : ColorContrast} {s : Scan}

/-! ### Paints -/

/-- A paint from which a text color can be taken. -/
def Canvas.Paint.Colored (p : Paint) : Prop :=
  p.kind = .solid ∧ p.color.isSome

/-- The topmost solid paint has no color and lies above one that has. -/
def Canvas.Fills.HidesColor : Fills → Prop
  | .paints ps => ∃ above top below, ps = above ++ top :: below ∧ (∀ p ∈ above, p.kind ≠ .solid) ∧
      top.kind = .solid ∧ top.color = none ∧ ∃ p ∈ below, p.Colored
  | .mixed => False

/-- The check is content with a colored paint wherever it lies. -/
theorem ColorContrast.missingColor?_paints :
    missingColor? (.paints ps) = none ↔ ∃ p ∈ ps, p.Colored := by
  cases ps with
  | nil => exact ⟨nofun, nofun⟩
  | cons p ps =>
    rw [missingColor?]
    split
    · rename_i some
      simpa [Canvas.Paint.Colored] using some
    · rename_i none
      simpa [Canvas.Paint.Colored] using none
    · nofun

/-- The topmost solid paint, with what lies above and below. -/
private theorem find?_solid_eq_some {top : Paint} : ps.find? (·.kind = .solid) = some top ↔
    top.kind = .solid ∧ ∃ above below, ps = above ++ top :: below ∧
      ∀ p ∈ above, p.kind ≠ .solid := by
  rw [List.find?_eq_some_iff_append]
  simp

/-- An analysis looks at the topmost solid paint only. -/
private theorem solidColor?_paints : (Fills.paints ps).solidColor? = none ↔
    ∀ top, ps.find? (·.kind = .solid) = some top → top.color = none := by
  rw [Fills.solidColor?]
  cases ps.find? (·.kind = .solid) with
  | none => exact ⟨fun _ => nofun, fun _ => rfl⟩
  | some top => cases color : top.color <;> simp [color]

/-- Fills without a colored paint give no color. -/
theorem Canvas.Fills.solidColor?_eq_none (missing : ColorContrast.missingColor? fills ≠ none) :
    fills.solidColor? = none := by
  cases fills with
  | mixed => rfl
  | paints ps =>
    refine solidColor?_paints.mpr fun top found => ?_
    by_contra colored
    have solid := (find?_solid_eq_some.mp found).1
    have member := List.mem_of_find?_eq_some found
    refine missing (ColorContrast.missingColor?_paints.mpr ⟨top, member, solid, ?_⟩)
    exact Option.isSome_iff_ne_none.mpr colored

/-- Fills hide a color if the check finds one that an analysis does not find. -/
theorem Canvas.Fills.hidesColor_iff : fills.HidesColor ↔
    ColorContrast.missingColor? fills = none ∧ fills.solidColor? = none := by
  cases fills with
  | mixed => exact ⟨nofun, nofun⟩
  | paints ps =>
    rw [ColorContrast.missingColor?_paints, solidColor?_paints]
    constructor
    · rintro ⟨above, top, below, rfl, front, solid, blank, p, member, colored⟩
      refine ⟨⟨p, List.mem_append_right _ (List.mem_cons_of_mem _ member), colored⟩, ?_⟩
      intro top' found
      rw [find?_solid_eq_some.mpr ⟨solid, above, below, rfl, front⟩] at found
      exact Option.some.inj found ▸ blank
    · rintro ⟨⟨p, member, colored⟩, blank⟩
      obtain ⟨top, found⟩ : ∃ top, ps.find? (·.kind = .solid) = some top :=
        Option.isSome_iff_exists.mp (List.find?_isSome.mpr ⟨p, member, decide_eq_true colored.1⟩)
      obtain ⟨solid, above, below, rfl, front⟩ := find?_solid_eq_some.mp found
      refine ⟨above, top, below, rfl, front, solid, blank top found, p, ?_, colored⟩
      -- neither above the topmost solid paint nor this paint itself
      rcases List.mem_append.mp member with covers | rest
      · exact absurd colored.1 (front p covers)
      · rcases List.mem_cons.mp rest with rfl | under
        · rw [Paint.Colored, blank p found] at colored
          cases colored.2
        · exact under

/-! ### Texts -/

theorem Canvas.Document.analyze_eq_none {mixedSize : Float} :
    d.analyze n mixedSize = none ↔ n.fills.solidColor? = none := by
  rw [Document.analyze]
  cases n.fills.solidColor? with
  | none => exact ⟨fun _ => rfl, fun _ => rfl⟩
  | some color => exact ⟨nofun, nofun⟩

/-- A rule for colors names a scanned text if the check finds no color for it. -/
theorem Rule.mem_affected_iff (condition : rule.condition = .valid (.colorContrast r))
    (alone : ∀ m ∈ s.nodes, m.id = n.id → m = n) (scanned : n ∈ s.nodes) (text : n.isText = true) :
    n.id ∈ (rule.finding s).affected.map (·.id) ↔ ColorContrast.missingColor? n.fills ≠ none := by
  have id_describe (m : Node) : (s.describe m).id = m.id :=
    congrArg Prod.fst (s.identity_describe m)
  simp only [affected_finding condition, Requirement.judge, ColorContrast.affected_judge,
    List.mem_map, List.mem_filterMap, Option.map_eq_some_iff, Scan.texts, List.mem_filter]
  constructor
  · rintro ⟨_, ⟨m, ⟨listed, -⟩, issue, missing, rfl⟩, same⟩
    obtain rfl := alone m listed ((id_describe m).symm.trans same)
    rw [missing]
    exact Option.some_ne_none issue
  · intro missing
    obtain ⟨issue, missing⟩ := Option.ne_none_iff_exists'.mp missing
    exact ⟨_, ⟨n, ⟨scanned, text⟩, issue, missing, rfl⟩, id_describe n⟩

/-- The check of colors and the analysis of the contrast agree on whether a scanned text has a
color, unless its fills hide one. -/
theorem Rule.affected_iff_analyze_iff (reachable : Document.Reachable ts d)
    (condition : rule.condition = .valid (.colorContrast r)) (t : Thresholds) (mixedSize : Float)
    (known : ∀ m ∈ nodes, m ∈ d.nodes) (scanned : n ∈ nodes) (text : n.isText = true) :
    (n.id ∈ (rule.finding ⟨nodes, d.host, t⟩).affected.map (·.id) ↔
      d.analyze n mixedSize = none) ↔ ¬ n.fills.HidesColor := by
  have alone (m : Node) (listed : m ∈ nodes) (same : m.id = n.id) : m = n := by
    have sound := reachable.sound
    rw [sound.nodes_eq] at known
    exact Canvas.eq_of_id_eq sound.distinct (known m listed) (known n scanned) same
  rw [Rule.mem_affected_iff condition alone scanned text, Document.analyze_eq_none,
    Fills.hidesColor_iff]
  have missing : ColorContrast.missingColor? n.fills ≠ none → n.fills.solidColor? = none :=
    Fills.solidColor?_eq_none
  tauto

/-- Black, covered by a solid paint without color. -/
def headline : Element where
  id := "headline"
  kind := .text
  fills := some (.paints [⟨.solid, none⟩, ⟨.solid, some ⟨0, 0, 0⟩⟩])

/-- Black, covered by an image. -/
def caption : Element where
  id := "caption"
  kind := .text
  fills := some (.paints [⟨.image, none⟩, ⟨.solid, some ⟨0, 0, 0⟩⟩])

/-- A poster with two texts on it. -/
def poster : Snapshot where
  selection := none
  trees := [.node { id := "poster", kind := .frame }
    (some [.node headline none none, .node caption none none]) none]

/-- The document of the poster. -/
def posterDocument : Document :=
  .ofForest poster.trees ["poster"]

theorem ofSnapshot_poster : Document.ofSnapshot poster = .ok posterDocument := by
  rfl

/-- What a rule that asks for colors finds on the poster. -/
def posterFinding : Finding :=
  let rule : Rule := ⟨"contrast", "Text has a color", none, .valid (.colorContrast ⟨4.5⟩)⟩
  rule.finding ⟨posterDocument.nodes, posterDocument.host, {}⟩

/-- The caption has a color for both. -/
theorem Rule.affected_iff_analyze_iff_caption :
    (caption.id ∈ posterFinding.affected.map (·.id) ↔
      posterDocument.analyze caption.toNode 14 = none) ∧
      (posterDocument.analyze caption.toNode 14).isSome := by
  have apparent : ¬ caption.toNode.fills.HidesColor := fun hidden => by
    cases (Fills.hidesColor_iff.mp hidden).2
  have scanned : caption.toNode ∈ posterDocument.nodes :=
    List.mem_of_getElem? (i := 2) rfl
  exact ⟨(affected_iff_analyze_iff (.made ofSnapshot_poster) rfl {} 14 (fun _ listed => listed)
    scanned rfl).mpr apparent, rfl⟩

/-- The headline passes the check, though no contrast can be computed for it. -/
theorem Rule.headline_passes_without_contrast :
    Document.ofSnapshot poster = .ok posterDocument ∧
      headline.toNode ∈ posterDocument.nodes ∧ headline.toNode.isText = true ∧
      ¬ (headline.id ∈ posterFinding.affected.map (·.id) ↔
        posterDocument.analyze headline.toNode 14 = none) := by
  refine ⟨rfl, List.mem_of_getElem? (i := 1) rfl, rfl, fun agree => ?_⟩
  have none : posterDocument.analyze headline.toNode 14 = none := rfl
  exact absurd (agree.mpr none) List.not_mem_nil

end CanvasLint
