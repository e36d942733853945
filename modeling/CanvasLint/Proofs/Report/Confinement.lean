import CanvasLint.Proofs.Canvas.Collection
import CanvasLint.Proofs.Check.Findings

/-! What a scan can see of a document. It sees the elements that it has collected, and beyond them
only what the main components of instances are called, which one kind of rule asks for. Whatever
else the document could tell, how its elements are nested included, has no part in the report. -/
namespace CanvasLint

open Canvas (Document Host Node)

variable {nodes : List Node} {host host' : Host} {t : Thresholds} {r : Requirement}
  {rules : List Rule} {d d' : Document}

/-- The instances among the elements are made from components of the same names, where these are
known, and either both know the component of an instance or neither does. -/
def SameComponents (nodes : List Node) (host host' : Host) : Prop :=
  ∀ n ∈ nodes, n.kind = .componentInstance →
    (host.mainComponentOf n.id).map Node.name = (host'.mainComponentOf n.id).map Node.name

/-- Some of the rules asks for an instance of a component. -/
def AsksForComponent (rules : List Rule) : Prop :=
  ∃ rule ∈ rules, ∃ r, rule.condition = .valid (.requiredComponent r)

/-! ### Verdicts -/

theorem RequiredComponent.isInstanceOf_eq (r : RequiredComponent) (s : Scan) (n : Node) :
    r.isInstanceOf s n = (decide (n.kind = .componentInstance) &&
      (s.host.mainComponentOf n.id).map Node.name == some r.componentName) := by
  rw [isInstanceOf]
  cases s.host.mainComponentOf n.id <;> rfl

theorem RequiredComponent.judge_congr (r : RequiredComponent)
    (same : SameComponents nodes host host') :
    r.judge ⟨nodes, host, t⟩ = r.judge ⟨nodes, host', t⟩ := by
  have each (n : Node) (scanned : n ∈ nodes) :
      r.isInstanceOf ⟨nodes, host, t⟩ n = r.isInstanceOf ⟨nodes, host', t⟩ n := by
    rw [isInstanceOf_eq, isInstanceOf_eq]
    by_cases kind : n.kind = .componentInstance
    · dsimp only
      rw [same n scanned kind]
    · rw [decide_eq_false kind, Bool.false_and, Bool.false_and]
  have found : nodes.any (r.isInstanceOf ⟨nodes, host, t⟩) =
      nodes.any (r.isInstanceOf ⟨nodes, host', t⟩) := by
    rw [Bool.eq_iff_iff, List.any_eq_true, List.any_eq_true]
    exact exists_congr fun n => and_congr_right fun scanned => by rw [each n scanned]
  rw [judge, judge, found]

theorem Requirement.judge_congr (components : ∀ r', r = .requiredComponent r' →
    SameComponents nodes host host') : r.judge ⟨nodes, host, t⟩ = r.judge ⟨nodes, host', t⟩ := by
  cases r with
  | requiredComponent r => exact r.judge_congr (components r rfl)
  -- the other checks are made from the elements and the thresholds alone
  | _ => rfl

/-! ### Reports -/

theorem Rule.finding_congr {rule : Rule} (components : ∀ r,
    rule.condition = .valid (.requiredComponent r) → SameComponents nodes host host') :
    rule.finding ⟨nodes, host, t⟩ = rule.finding ⟨nodes, host', t⟩ := by
  rw [finding, finding]
  cases outcome : rule.requirement with
  | error e => rfl
  | ok r =>
    have known := requirement_eq_ok.mp outcome
    have same : r.judge ⟨nodes, host, t⟩ = r.judge ⟨nodes, host', t⟩ :=
      r.judge_congr fun r' asked => components r' (asked ▸ known)
    dsimp only
    rw [same]

namespace Report

theorem ofRules_congr (components : AsksForComponent rules →
    SameComponents nodes d.host d'.host) :
    ofRules d t nodes rules = ofRules d' t nodes rules := by
  have each : rules.map (·.finding ⟨nodes, d.host, t⟩) =
      rules.map (·.finding ⟨nodes, d'.host, t⟩) :=
    List.map_congr_left fun rule given =>
      rule.finding_congr fun r asked => components ⟨rule, given, r, asked⟩
  rw [ofRules, ofRules, each]

/-- Two documents in which the same selection collects the same elements are scanned with the same
report. What the main components of the collected instances are called has to be the same only if a
rule asks for a component; all else may differ. -/
theorem ofSelection_congr (selected : d.selection = d'.selection) (given : d.selection ≠ [])
    (collected : d.collect d.selection = d'.collect d'.selection)
    (components : AsksForComponent rules →
      SameComponents (d.collect d.selection) d.host d'.host)
    (t : Thresholds) :
    ∃ r, ofSelection d t rules = .ok r ∧ ofSelection d' t rules = .ok r := by
  have given' : d'.selection ≠ [] := selected ▸ given
  refine ⟨_, if_neg (by simpa using given), ?_⟩
  rw [ofSelection, if_neg (by simpa using given'), ← collected]
  exact congrArg _ (ofRules_congr components).symm

def buy : Canvas.Element where
  id := "buy"
  name := "Buy"
  kind := .componentInstance
  width := 96
  height := 48

/-- The button was made from a component beside it. -/
def shop : Canvas.Snapshot where
  selection := some ["buy"]
  trees := [
    .node { id := "page", name := "Shop", kind := .frame } (some [
      .node buy none (some "action"),
      .node { id := "action", name := "Primary", kind := .component } none none]) none]

/-- The button stands by itself and was made from another component of the same name. -/
def kiosk : Canvas.Snapshot where
  selection := some ["buy"]
  trees := [
    .node buy none (some "stock"),
    .node { id := "library", name := "Library", kind := .frame } (some [
      .node { id := "stock", name := "Primary", kind := .component, width := 320 } (some []) none])
      none]

def buttonRules : List Rule := [
  ⟨"primary", "Use the primary button", none, .valid (.requiredComponent ⟨"Primary"⟩)⟩,
  ⟨"size", "Buttons are large enough", none, .valid (.elementSize ⟨44, 44⟩)⟩]

theorem ofSelection_congr_button :
    let d := Document.ofForest shop.trees ["buy"]
    let d' := Document.ofForest kiosk.trees ["buy"]
    d.selection = d'.selection ∧ d.selection ≠ [] ∧
      d.collect d.selection = d'.collect d'.selection ∧ AsksForComponent buttonRules ∧
      SameComponents (d.collect d.selection) d.host d'.host ∧
      ∃ r, ofSelection d {} buttonRules = .ok r ∧ ofSelection d' {} buttonRules = .ok r := by
  intro d d'
  have sound : d.Sound shop.trees := .of_ofSnapshot (s := shop) rfl
  have sound' : d'.Sound kiosk.trees := .of_ofSnapshot (s := kiosk) rfl
  have listed : d.collect d.selection = [buy.toNode] := by
    rw [sound.collect_eq]
    rfl
  have collected : d.collect d.selection = d'.collect d'.selection := by
    rw [listed, sound'.collect_eq]
    rfl
  have components : SameComponents (d.collect d.selection) d.host d'.host := by
    intro n scanned _
    rw [listed, List.mem_singleton] at scanned
    rw [scanned]
    rfl
  have selected : d.selection = d'.selection := rfl
  have given : d.selection ≠ [] := List.cons_ne_nil _ _
  exact ⟨selected, given, collected, ⟨_, List.mem_cons_self, _, rfl⟩, components,
    ofSelection_congr selected given collected (fun _ => components) {}⟩

end Report

end CanvasLint
