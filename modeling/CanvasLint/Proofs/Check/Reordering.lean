import CanvasLint.Check.Judgement
import Mathlib.Data.List.Perm.Basic

/-! No check depends on the order of the scanned elements. A check picks elements out, counts them,
or asks whether there are any; the order shows only in the list of elements that a failure names. -/
namespace CanvasLint

open Canvas (Node)

variable {s s' : Scan}

/-- Scans that differ in the order of their elements only. -/
structure Scan.SameButOrder (s s' : Scan) : Prop where
  nodes : s.nodes.Perm s'.nodes
  host : s.host = s'.host
  thresholds : s.thresholds = s'.thresholds

/-- Verdicts that differ in the order of the named elements only. -/
inductive Verdict.SameButOrder : Verdict → Verdict → Prop
  | passed (message : String) : SameButOrder (.passed message) (.passed message)
  | unverified (message : String) : SameButOrder (.unverified message) (.unverified message)
  | failed (severity : Severity) (message : String) {affected affected' : List AffectedNode}
      (reordered : affected.Perm affected') :
      SameButOrder (.failed severity message affected) (.failed severity message affected')

namespace Scan.SameButOrder

theorem texts (same : s.SameButOrder s') : s.texts.Perm s'.texts :=
  same.nodes.filter _

theorem describe (same : s.SameButOrder s') : s.describe = s'.describe := by
  funext n
  rw [Scan.describe, Scan.describe, same.thresholds]

theorem fontSize (same : s.SameButOrder s') : s.fontSize = s'.fontSize := by
  funext n
  rw [Scan.fontSize, Scan.fontSize, same.thresholds]

end Scan.SameButOrder

/-! ### The checks -/

section Checks

variable (same : s.SameButOrder s')

include same

theorem RequiredText.judge_sameButOrder (r : RequiredText) :
    (r.judge s).SameButOrder (r.judge s') := by
  have found := same.texts.filter fun n => r.matchesText n.text
  unfold judge
  simp only [found.isEmpty_eq, found.length_eq, same.describe]
  split
  · exact .failed _ _ (same.texts.map _)
  · exact .passed _

theorem TextUniqueness.judge_sameButOrder (r : TextUniqueness) :
    (r.judge s).SameButOrder (r.judge s') := by
  have found := same.texts.filter fun n => Text.containsFolded n.text r.targetText
  unfold judge
  simp only [found.length_eq]
  split
  · exact .passed _
  · exact .failed _ _ (found.map _)

theorem FontSizeRange.judge_sameButOrder (r : FontSizeRange) :
    (r.judge s).SameButOrder (r.judge s') := by
  have failing := same.texts.filter fun n => r.outside s'.thresholds (s'.fontSize n)
  unfold judge
  simp only [same.describe, same.fontSize, same.thresholds, failing.isEmpty_eq, failing.length_eq]
  split
  · exact .passed _
  · exact .failed _ _ (failing.map _)

theorem ColorContrast.judge_sameButOrder (r : ColorContrast) :
    (r.judge s).SameButOrder (r.judge s') := by
  have failing := same.texts.filterMap fun n =>
    (missingColor? n.fills).map (s'.describe n).withIssue
  unfold judge
  simp only [same.describe, failing.isEmpty_eq, failing.length_eq]
  split
  · exact .passed _
  · exact .failed _ _ failing

theorem RequiredComponent.judge_sameButOrder (r : RequiredComponent) :
    (r.judge s).SameButOrder (r.judge s') := by
  have kept : r.isInstanceOf s = r.isInstanceOf s' := by
    funext n
    rw [isInstanceOf, isInstanceOf, same.host]
  unfold judge
  rw [kept, same.nodes.any_eq]
  split
  · exact .passed _
  · exact .failed _ _ (.refl _)

theorem ComponentPresence.judge_sameButOrder (r : ComponentPresence) :
    (r.judge s).SameButOrder (r.judge s') := by
  have found := same.nodes.filter r.fits
  unfold judge
  simp only [found.isEmpty_eq, found.length_eq]
  split
  · exact .failed _ _ (.refl _)
  · exact .passed _

theorem ElementSize.judge_sameButOrder (r : ElementSize) :
    (r.judge s).SameButOrder (r.judge s') := by
  have failing := same.nodes.filter fun n => isInteractive n && r.tooSmall n
  unfold judge
  simp only [failing.isEmpty_eq, failing.length_eq]
  split
  · exact .passed _
  · exact .failed _ _ (failing.map _)

/-- Whether an input has a label depends on the texts as a set. -/
theorem LabelPresence.hasLabel_eq : hasLabel s = hasLabel s' := by
  funext input
  rw [hasLabel, hasLabel, same.thresholds, same.texts.any_eq]

theorem LabelPresence.judge_sameButOrder (r : LabelPresence) :
    (r.judge s).SameButOrder (r.judge s') := by
  have unlabeled := same.nodes.filter fun n => r.isInput n && !hasLabel s' n
  unfold judge
  simp only [hasLabel_eq same, unlabeled.isEmpty_eq, unlabeled.length_eq]
  split
  · exact .passed _
  · exact .failed _ _ (unlabeled.map _)

/-- Whether an image is described depends on the texts as a set. -/
theorem AltTextPresence.isDescribed_eq : isDescribed s = isDescribed s' := by
  funext image
  rw [isDescribed, isDescribed, same.thresholds, same.texts.any_eq]

theorem AltTextPresence.judge_sameButOrder (r : AltTextPresence) :
    (r.judge s).SameButOrder (r.judge s') := by
  have missing := same.nodes.filter fun n => r.isImage n && !isDescribed s' n
  unfold judge
  simp only [isDescribed_eq same, missing.isEmpty_eq, missing.length_eq]
  split
  · exact .passed _
  · exact .failed _ _ (missing.map _)

theorem HeadingPresence.judge_sameButOrder :
    (HeadingPresence.judge s).SameButOrder (HeadingPresence.judge s') := by
  have found := same.texts.filter (isHeading s'.thresholds)
  unfold judge
  simp only [same.thresholds, found.isEmpty_eq, found.length_eq]
  split
  · exact .failed _ _ (.refl _)
  · exact .passed _

theorem ImageAlt.judge_sameButOrder :
    (ImageAlt.judge s).SameButOrder (ImageAlt.judge s') := by
  have failing := same.nodes.filter fun n => isImage n && isUnnamed s'.thresholds n
  unfold judge
  simp only [same.thresholds, failing.isEmpty_eq, failing.length_eq]
  split
  · exact .passed _
  · exact .failed _ _ (failing.map _)

theorem ElementAlignment.judge_sameButOrder (r : ElementAlignment) :
    (r.judge s).SameButOrder (r.judge s') := by
  have targets := same.nodes.filter fun n =>
    n.nameContains r.target || (r.target == anyButton && n.nameContains buttonName)
  unfold judge
  simp only [targets.length_eq]
  exact .unverified _

/-- Whatever is required, the verdict does not depend on the order of the elements. -/
theorem Requirement.judge_sameButOrder (r : Requirement) :
    (r.judge s).SameButOrder (r.judge s') := by
  cases r with
  | requiredText r => exact r.judge_sameButOrder same
  | fontSize r => exact r.judge_sameButOrder same
  | colorContrast r => exact r.judge_sameButOrder same
  | requiredComponent r => exact r.judge_sameButOrder same
  | componentPresence r => exact r.judge_sameButOrder same
  | elementSize r => exact r.judge_sameButOrder same
  | labelPresence r => exact r.judge_sameButOrder same
  | textUniqueness r => exact r.judge_sameButOrder same
  | headingPresence r => exact HeadingPresence.judge_sameButOrder same
  | altTextPresence r => exact r.judge_sameButOrder same
  | elementAlignment r => exact r.judge_sameButOrder same
  | spacing r => exact .unverified _
  | imageAlt => exact ImageAlt.judge_sameButOrder same

end Checks

/-! ### Findings -/

/-- Findings that differ in the order of the named elements only. -/
structure Finding.SameButOrder (f f' : Finding) : Prop where
  ruleId : f.ruleId = f'.ruleId
  description : f.description = f'.description
  status : f.status = f'.status
  unverified : f.unverified = f'.unverified
  message : f.message = f'.message
  affected : f.affected.Perm f'.affected

theorem Finding.SameButOrder.refl (f : Finding) : f.SameButOrder f :=
  ⟨rfl, rfl, rfl, rfl, rfl, .refl _⟩

theorem Rule.finding_sameButOrder (same : s.SameButOrder s') (rule : Rule) :
    (rule.finding s).SameButOrder (rule.finding s') := by
  unfold finding
  cases rule.requirement with
  | error e => exact .refl _
  | ok r =>
    have verdicts := r.judge_sameButOrder same
    dsimp only
    generalize r.judge s = verdict, r.judge s' = verdict' at verdicts ⊢
    cases verdicts with
    | passed message => exact .refl _
    | unverified message => exact .refl _
    | failed severity message reordered => exact ⟨rfl, rfl, rfl, rfl, rfl, reordered⟩

end CanvasLint
