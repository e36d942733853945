import CanvasLint.Proofs.Canvas.Views
import CanvasLint.Proofs.Check.Verdicts
import CanvasLint.Proofs.Text.Folding

/-! What becomes of a search for a phrase when case no longer matters. Nothing that was found before
is lost if and only if the phrase leaves the form of no sigma open. This is the same for a phrase
that has to be there, for the name of an element, and for a phrase that may be there once only. -/
namespace CanvasLint

open Canvas (Document Node Snapshot Tree)

variable {phrase text : String} {s : Scan}

/-- Wherever the phrase is found as it is written, a rule that asks for it is content with it
regardless of case. -/
def RelaxingPasses (phrase : String) : Prop :=
  ∀ (ts : List Tree) (d : Document) (t : Thresholds) (nodes : List Node) (rule : Rule),
    Document.Reachable ts d → (∀ n ∈ nodes, n ∈ d.nodes) →
    rule.condition = .valid (.requiredText ⟨phrase, true⟩) →
    (rule.findingOn d t nodes).status = .passed →
    (Rule.findingOn { rule with condition := .valid (.requiredText ⟨phrase, false⟩) } d t
      nodes).status = .passed

/-- A name that contains the phrase as it is written contains it regardless of case. -/
def NamesFold (phrase : String) : Prop :=
  ∀ n : Node, Text.contains n.name phrase = true → n.nameContains phrase = true

/-- A rule by which the phrase may be there once only counts every text that contains the phrase as
it is written: it passes with one such text at most, and otherwise it names all of them. -/
def CountsMentions (phrase : String) : Prop :=
  ∀ (ts : List Tree) (d : Document) (t : Thresholds) (nodes : List Node) (rule : Rule),
    Document.Reachable ts d → (∀ n ∈ nodes, n ∈ d.nodes) →
    rule.condition = .valid (.textUniqueness ⟨phrase⟩) →
    let literal := nodes.filter fun n => n.isText && Text.contains n.text phrase
    let finding := rule.findingOn d t nodes
    (finding.status = .passed → literal.length ≤ 1) ∧
      (finding.status ≠ .passed → (literal.map TextUniqueness.mention).Sublist finding.affected)

/-! ### Phrases that settle their sigmas -/

theorem relaxingPasses_of_settled (settled : Text.hasOpenSigma phrase = false) :
    RelaxingPasses phrase := by
  intro ts d t nodes rule _ _ condition passed
  rw [Rule.findingOn, Rule.finding_passed_iff condition, Requirement.judge,
    RequiredText.isPassed_judge] at passed
  rw [Rule.findingOn, Rule.finding_passed_iff rfl, Requirement.judge, RequiredText.isPassed_judge]
  obtain ⟨n, member, isText, found⟩ := passed
  exact ⟨n, member, isText, Text.containsFolded_of_contains settled found⟩

theorem literal_sublist (settled : Text.hasOpenSigma phrase = false) :
    (s.nodes.filter fun n => n.isText && Text.contains n.text phrase).Sublist
      (s.texts.filter fun n => Text.containsFolded n.text phrase) := by
  rw [Scan.texts, List.filter_filter]
  refine List.monotone_filter_right _ fun n found => ?_
  rw [Bool.and_eq_true] at found
  rw [Text.containsFolded_of_contains settled found.2, found.1]
  rfl

theorem countsMentions_of_settled (settled : Text.hasOpenSigma phrase = false) :
    CountsMentions phrase := by
  intro ts d t nodes rule _ _ condition
  have sublist := literal_sublist (s := ⟨nodes, d.host, t⟩) settled
  dsimp only
  rw [Rule.findingOn, Rule.finding_passed_iff condition, Rule.affected_finding condition]
  refine ⟨fun passed => ?_, fun failed => ?_⟩
  · exact sublist.length_le.trans ((TextUniqueness.isPassed_judge _ _).mp passed)
  · rw [ne_eq, Rule.finding_passed_iff condition] at failed
    rw [Requirement.judge, TextUniqueness.affected_judge _ _ failed]
    exact sublist.map _

/-! ### Phrases that leave a sigma open -/

/-- An element that is called what it says. -/
def saying (text id : String) : Canvas.Element where
  id := id
  name := text
  kind := .text
  characters := some text

/-- Two elements that say the same. -/
def twins (text : String) : Snapshot where
  selection := none
  trees := [.node (saying text "left") none none, .node (saying text "right") none none]

def twinsDocument (text : String) : Document :=
  .ofForest (twins text).trees ["left", "right"]

theorem nodes_twins (text : String) : Canvas.nodesOfAll (twins text).trees =
    [(saying text "left").toNode, (saying text "right").toNode] :=
  rfl

theorem ofSnapshot_twins (text : String) :
    Document.ofSnapshot (twins text) = .ok (twinsDocument text) := by
  have extent : Canvas.validExtent 0 = true := by decide +kernel
  have clean : Canvas.firstFault [] (Canvas.nodesOfAll (twins text).trees) = none := by
    rw [Canvas.firstFault_eq_none_iff, nodes_twins]
    have distinct : ["left", "right"].Nodup := by decide
    refine ⟨distinct, fun _ _ => List.not_mem_nil, ?_⟩
    simp [saying, Canvas.Element.toNode, extent]
  rw [Document.ofSnapshot_eq, clean]
  rfl

theorem nodes_twinsDocument (text : String) : (twinsDocument text).nodes =
    [(saying text "left").toNode, (saying text "right").toNode] :=
  (Document.Sound.of_ofSnapshot (ofSnapshot_twins text)).nodes_eq

/-- A rule that asks for the phrase. -/
def asking (phrase : String) (caseSensitive : Bool) : Rule :=
  ⟨"phrase", "Say it", none, .valid (.requiredText ⟨phrase, caseSensitive⟩)⟩

theorem asking_passed_iff {caseSensitive : Bool} {t : Thresholds} :
    ((asking phrase caseSensitive).findingOn (twinsDocument text) t
      (twinsDocument text).nodes).status = .passed ↔
        RequiredText.matchesText ⟨phrase, caseSensitive⟩ text = true := by
  have same (id : String) : (saying text id).toNode.text = text := rfl
  have isText (id : String) : (saying text id).toNode.isText = true := rfl
  rw [Rule.findingOn, Rule.finding_passed_iff rfl, Requirement.judge, RequiredText.isPassed_judge,
    nodes_twinsDocument]
  simp [same, isText]

theorem not_relaxingPasses (found : Text.contains text phrase = true)
    (hidden : Text.containsFolded text phrase = false) : ¬ RelaxingPasses phrase := by
  intro relaxes
  have relaxed := relaxes _ _ {} _ (asking phrase true) (.made (ofSnapshot_twins text))
    (fun _ member => member) rfl (asking_passed_iff.mpr found)
  exact Bool.false_ne_true (hidden.symm.trans (asking_passed_iff.mp relaxed))

theorem not_namesFold (found : Text.contains text phrase = true)
    (hidden : Text.containsFolded text phrase = false) : ¬ NamesFold phrase := fun fold =>
  Bool.false_ne_true (hidden.symm.trans (fold (saying text "left").toNode found))

/-- Both elements say the phrase and neither is counted. -/
theorem not_countsMentions (found : Text.contains text phrase = true)
    (hidden : Text.containsFolded text phrase = false) : ¬ CountsMentions phrase := by
  intro counts
  let once : Rule := ⟨"phrase", "Say it once", none, .valid (.textUniqueness ⟨phrase⟩)⟩
  have few := (counts _ _ {} _ once (.made (ofSnapshot_twins text)) (fun _ member => member) rfl).1
  rw [Rule.findingOn, Rule.finding_passed_iff rfl, Requirement.judge, TextUniqueness.isPassed_judge,
    Scan.texts, nodes_twinsDocument] at few
  have same (id : String) : (saying text id).toNode.text = text := rfl
  have isText (id : String) : (saying text id).toNode.isText = true := rfl
  simp [same, isText, found, hidden] at few

/-! ### All phrases -/

theorem iff_settled {kept : Prop} (keeps : Text.hasOpenSigma phrase = false → kept)
    (loses : ∀ text, Text.contains text phrase = true → Text.containsFolded text phrase = false →
      ¬ kept) : kept ↔ Text.hasOpenSigma phrase = false := by
  refine ⟨fun holds => ?_, keeps⟩
  by_contra left
  obtain ⟨text, found, hidden⟩ := Text.exists_hiding ((Bool.not_eq_false _).mp left)
  exact loses text found hidden holds

end CanvasLint
