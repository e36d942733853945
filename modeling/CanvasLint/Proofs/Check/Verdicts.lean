import CanvasLint.Proofs.Check.Findings

/-! What a verdict depends on, check by check. Some checks look for one element and are content as
soon as it is there; some look at every element by itself; two ask of some elements that others lie
near them; and one counts. The findings of rules follow the verdicts. -/
namespace CanvasLint

open Canvas (Document Node)

variable {rule : Rule} {r : Requirement} {s : Scan} {nodes : List Node}

namespace Verdict

/-- Nothing is amiss, or nothing has been looked into. -/
def isPassed : Verdict → Bool
  | passed _ | unverified _ => true
  | failed _ _ _ => false

/-- The elements that are named, none unless the verdict is a failure. -/
def affected : Verdict → List AffectedNode
  | passed _ | unverified _ => []
  | failed _ _ affected => affected

end Verdict

/-- A check that names whatever is amiss passes if and only if it names nothing. -/
theorem Requirement.isPassed_iff_affected (blames : r.kind.blames = true) :
    (r.judge s).isPassed = true ↔ (r.judge s).affected = [] := by
  have blaming := judge_blaming s blames
  generalize r.judge s = verdict at blaming
  cases blaming with
  | passed message => exact iff_of_true rfl rfl
  | failed message some named => exact iff_of_false Bool.false_ne_true some

/-! ### Findings -/

namespace Rule

/-- The finding of a rule on elements of a document. -/
def findingOn (rule : Rule) (d : Document) (t : Thresholds) (nodes : List Node) : Finding :=
  rule.finding ⟨nodes, d.host, t⟩

theorem finding_passed_iff (condition : rule.condition = .valid r) :
    (rule.finding s).status = .passed ↔ (r.judge s).isPassed = true := by
  rw [finding, requirement_eq_ok.mpr condition]
  dsimp only
  cases r.judge s with
  | passed message => exact iff_of_true rfl rfl
  | unverified message => exact iff_of_true rfl rfl
  | failed severity message affected =>
    exact iff_of_false (Status.ofSeverity_ne_passed _) Bool.false_ne_true

theorem affected_finding (condition : rule.condition = .valid r) :
    (rule.finding s).affected = (r.judge s).affected := by
  rw [finding, requirement_eq_ok.mpr condition]
  dsimp only
  cases r.judge s <;> rfl

/-- A rule that names whatever is amiss passes if and only if it names nothing. -/
theorem passed_iff_affected (condition : rule.condition = .valid r)
    (blames : r.kind.blames = true) :
    (rule.finding s).status = .passed ↔ (rule.finding s).affected = [] := by
  rw [finding_passed_iff condition, affected_finding condition,
    Requirement.isPassed_iff_affected blames]

end Rule

/-! ### Checks that look for an element -/

private theorem isPassed_ite {p : Node → Bool} {severity : Severity} {success failure : String}
    {candidates : List AffectedNode} :
    (if (nodes.filter p).isEmpty then Verdict.failed severity failure candidates
      else .passed success).isPassed = true ↔ ∃ n ∈ nodes, p n = true := by
  have absent : (nodes.filter p).isEmpty = true ↔ ¬ ∃ n ∈ nodes, p n = true := by simp
  split
  · rename_i none
    exact iff_of_false Bool.false_ne_true (absent.mp none)
  · rename_i some
    exact iff_of_true rfl (not_not.mp (mt absent.mpr some))

theorem Scan.exists_mem_texts {p : Node → Prop} :
    (∃ n ∈ s.texts, p n) ↔ ∃ n ∈ s.nodes, n.isText = true ∧ p n := by
  simp only [texts, List.mem_filter, and_assoc]

theorem RequiredText.isPassed_judge (r : RequiredText) (s : Scan) : (r.judge s).isPassed = true ↔
    ∃ n ∈ s.nodes, n.isText = true ∧ r.matchesText n.text = true :=
  isPassed_ite.trans Scan.exists_mem_texts

theorem RequiredComponent.isPassed_judge (r : RequiredComponent) (s : Scan) :
    (r.judge s).isPassed = true ↔ ∃ n ∈ s.nodes, r.isInstanceOf s n = true := by
  rw [judge, ← List.any_eq_true]
  split
  · rename_i some
    exact iff_of_true rfl some
  · rename_i none
    exact iff_of_false Bool.false_ne_true none

theorem ComponentPresence.isPassed_judge (r : ComponentPresence) (s : Scan) :
    (r.judge s).isPassed = true ↔ ∃ n ∈ s.nodes, r.fits n = true :=
  isPassed_ite

theorem HeadingPresence.isPassed_judge (s : Scan) : (HeadingPresence.judge s).isPassed = true ↔
    ∃ n ∈ s.nodes, n.isText = true ∧ isHeading s.thresholds n = true :=
  isPassed_ite.trans Scan.exists_mem_texts

/-! ### A check that counts -/

theorem TextUniqueness.isPassed_judge (r : TextUniqueness) (s : Scan) :
    (r.judge s).isPassed = true ↔
      (s.texts.filter fun n => Text.containsFolded n.text r.targetText).length ≤ 1 := by
  rw [judge]
  split
  · rename_i few
    exact iff_of_true rfl few
  · rename_i many
    exact iff_of_false Bool.false_ne_true many

theorem TextUniqueness.affected_judge (r : TextUniqueness) (s : Scan)
    (failed : ¬ (r.judge s).isPassed = true) : (r.judge s).affected =
      (s.texts.filter fun n => Text.containsFolded n.text r.targetText).map mention := by
  rw [isPassed_judge] at failed
  rw [judge, if_neg failed]
  rfl

/-! ### Checks that look at every element -/

/-- A check that is content if it has found nothing amiss, and otherwise names what it has found. -/
private theorem affected_ite {α : Type} {amiss : List α} {severity : Severity}
    {success failure : String} {entries : List AffectedNode} (none : amiss = [] → entries = []) :
    (if amiss.isEmpty then Verdict.passed success
      else .failed severity failure entries).affected = entries := by
  split
  · rename_i empty
    exact (none (List.isEmpty_iff.mp empty)).symm
  · rfl

private theorem affected_ite_map {p : Node → Bool} {severity : Severity}
    {success failure : String} {entry : Node → AffectedNode} :
    (if (nodes.filter p).isEmpty then Verdict.passed success
      else .failed severity failure ((nodes.filter p).map entry)).affected =
        (nodes.filter p).map entry :=
  affected_ite fun none => by rw [none, List.map_nil]

theorem FontSizeRange.affected_judge (r : FontSizeRange) (s : Scan) : (r.judge s).affected =
    (s.texts.filter fun n => r.outside s.thresholds (s.fontSize n)).map s.describe :=
  affected_ite_map

theorem ColorContrast.affected_judge (r : ColorContrast) (s : Scan) : (r.judge s).affected =
    s.texts.filterMap fun n => (missingColor? n.fills).map (s.describe n).withIssue :=
  affected_ite id

theorem ElementSize.affected_judge (r : ElementSize) (s : Scan) : (r.judge s).affected =
    (s.nodes.filter fun n => isInteractive n && r.tooSmall n).map r.complaint :=
  affected_ite_map

theorem ImageAlt.affected_judge (s : Scan) : (ImageAlt.judge s).affected =
    (s.nodes.filter fun n => isImage n && isUnnamed s.thresholds n).map fun n =>
      (AffectedNode.ofNode n).withIssue "Image layer has no descriptive name" :=
  affected_ite_map

/-! ### Checks that look near an element -/

theorem LabelPresence.affected_judge (r : LabelPresence) (s : Scan) : (r.judge s).affected =
    (s.nodes.filter fun n => r.isInput n && !hasLabel s n).map fun n =>
      (AffectedNode.ofNode n).withIssue "No associated label found" :=
  affected_ite_map

theorem AltTextPresence.affected_judge (r : AltTextPresence) (s : Scan) : (r.judge s).affected =
    (s.nodes.filter fun n => r.isImage n && !isDescribed s n).map fun n =>
      (AffectedNode.ofNode n).withIssue "No alt text or descriptive label found" :=
  affected_ite_map

end CanvasLint
