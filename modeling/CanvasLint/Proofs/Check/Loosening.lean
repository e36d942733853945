import CanvasLint.Proofs.Check.Joining
import CanvasLint.Proofs.Number.FloatValue

/-! Checks with looser thresholds: wider bounds for font sizes, smaller elements, larger windows,
smaller headings. Whatever is found amiss then was found amiss before. All comparisons of a check
have to point the right way for this, at the thresholds themselves too, and a missing upper bound
has to be looser than any other. -/
namespace CanvasLint

open Canvas (Document Host Node)
open Number (float_le_trans float_lt_of_le_of_lt float_lt_of_lt_of_le)

variable {t t' : Thresholds} {w w' : Window} {r r' : Requirement} {rule rule' : Rule} {n m : Node}
  {nodes : List Node} {host : Host}

/-- The window reaches at least as far along each axis. -/
structure Window.Wider (w w' : Window) : Prop where
  horizontal : w.horizontal ≤ w'.horizontal
  vertical : w.vertical ≤ w'.vertical

/-- The same kind of requirement with a looser threshold. Bounds for font sizes are those that count,
whether they come from the rule or from the thresholds. -/
inductive Requirement.Loosened (t t' : Thresholds) : Requirement → Requirement → Prop
  | fontSize {r r' : FontSizeRange} (mixed : t'.mixedFontSize = t.mixedFontSize)
      (lower : r'.lower t' ≤ r.lower t)
      (upper : ∀ max', r'.max = some max' → ∃ max, r.max = some max ∧ max ≤ max') :
      Loosened t t' (.fontSize r) (.fontSize r')
  | elementSize {r r' : ElementSize} (width : r'.minWidth ≤ r.minWidth)
      (height : r'.minHeight ≤ r.minHeight) : Loosened t t' (.elementSize r) (.elementSize r')
  | labelPresence {r : LabelPresence} (window : t.labelWindow.Wider t'.labelWindow) :
      Loosened t t' (.labelPresence r) (.labelPresence r)
  | altTextPresence {r : AltTextPresence} (window : t.altTextWindow.Wider t'.altTextWindow) :
      Loosened t t' (.altTextPresence r) (.altTextPresence r)
  | headingPresence {r r' : HeadingPresence} (size : t'.headingMinFontSize ≤ t.headingMinFontSize) :
      Loosened t t' (.headingPresence r) (.headingPresence r')

/-! ### One element -/

theorem FontSizeRange.outside_of_loosened {r r' : FontSizeRange} {size : Float}
    (lower : r'.lower t' ≤ r.lower t)
    (upper : ∀ max', r'.max = some max' → ∃ max, r.max = some max ∧ max ≤ max')
    (outside : r'.outside t' size = true) : r.outside t size = true := by
  rw [FontSizeRange.outside, Bool.or_eq_true, decide_eq_true_iff] at outside ⊢
  rcases outside with small | large
  · exact .inl (float_lt_of_lt_of_le small lower)
  · right
    cases given' : r'.max with
    | none =>
      rw [given'] at large
      cases large
    | some max' =>
      obtain ⟨max, given, le⟩ := upper max' given'
      rw [given'] at large
      rw [given]
      exact decide_eq_true (float_lt_of_le_of_lt le (of_decide_eq_true large))

theorem ElementSize.tooSmall_of_le {r r' : ElementSize} (width : r'.minWidth ≤ r.minWidth)
    (height : r'.minHeight ≤ r.minHeight) (small : r'.tooSmall n = true) : r.tooSmall n = true := by
  rw [tooSmall, Bool.or_eq_true, decide_eq_true_iff, decide_eq_true_iff] at small ⊢
  exact small.imp (float_lt_of_lt_of_le · width) (float_lt_of_lt_of_le · height)

theorem Window.Wider.near (wider : w.Wider w') (near : w.near m n = true) : w'.near m n = true := by
  rw [Window.near, Bool.and_eq_true, decide_eq_true_iff, decide_eq_true_iff] at near ⊢
  exact ⟨float_lt_of_lt_of_le near.1 wider.horizontal, float_lt_of_lt_of_le near.2 wider.vertical⟩

theorem LabelPresence.hasLabel_of_wider (window : t.labelWindow.Wider t'.labelWindow)
    (labeled : hasLabel ⟨nodes, host, t⟩ n = true) : hasLabel ⟨nodes, host, t'⟩ n = true := by
  obtain ⟨label, listed, fits⟩ := List.any_eq_true.mp labeled
  rw [Bool.and_eq_true] at fits
  exact List.any_eq_true.mpr ⟨label, listed, Bool.and_eq_true_iff.mpr ⟨fits.1, window.near fits.2⟩⟩

theorem AltTextPresence.isDescribed_of_wider (window : t.altTextWindow.Wider t'.altTextWindow)
    (described : isDescribed ⟨nodes, host, t⟩ n = true) :
    isDescribed ⟨nodes, host, t'⟩ n = true := by
  rw [isDescribed, Bool.or_eq_true] at described ⊢
  refine described.imp_right fun found => ?_
  obtain ⟨text, listed, near⟩ := List.any_eq_true.mp found
  exact List.any_eq_true.mpr ⟨text, listed, window.near near⟩

theorem HeadingPresence.isHeading_of_le (size : t'.headingMinFontSize ≤ t.headingMinFontSize)
    (heading : isHeading t n = true) : isHeading t' n = true := by
  rw [isHeading, Bool.or_eq_true] at heading ⊢
  refine heading.imp_right fun large => ?_
  split at large
  · exact decide_eq_true (float_le_trans size (of_decide_eq_true large))
  · cases large

theorem HeadingPresence.affected_judge (s : Scan) : (HeadingPresence.judge s).affected = [] := by
  rw [judge]
  split <;> rfl

/-! ### All elements -/

namespace Requirement

/-- Of fewer elements fewer are named, whatever is said about each of them. -/
private theorem named_sublist {p p' : Node → Bool} {entry entry' : Node → AffectedNode}
    (named : ∀ n, (entry n).id = n.id) (named' : ∀ n, (entry' n).id = n.id)
    (fewer : ∀ n, p' n = true → p n = true) :
    (((nodes.filter p').map entry').map (·.id)).Sublist (((nodes.filter p).map entry).map (·.id)) := by
  have ids {entry : Node → AffectedNode} (named : ∀ n, (entry n).id = n.id) (picked : List Node) :
      (picked.map entry).map (·.id) = picked.map (·.id) := by
    rw [List.map_map]
    exact List.map_congr_left fun n _ => named n
  rw [ids named, ids named']
  exact (List.monotone_filter_right nodes fewer).map _

/-- Whoever lacks what is easier to have lacked it before. -/
private theorem lacks_of_easier {needy has has' : Bool} (easier : has = true → has' = true)
    (lacks : (needy && !has') = true) : (needy && !has) = true := by
  rw [Bool.and_eq_true, Bool.not_eq_true'] at lacks ⊢
  exact ⟨lacks.1, Bool.eq_false_iff.mpr fun met => Bool.eq_false_iff.mp lacks.2 (easier met)⟩

/-- What is named with a looser threshold was named before. -/
theorem Loosened.ids_sublist (loosened : Loosened t t' r r') :
    ((r'.judge ⟨nodes, host, t'⟩).affected.map (·.id)).Sublist
      ((r.judge ⟨nodes, host, t⟩).affected.map (·.id)) := by
  cases loosened with
  | fontSize mixed lower upper =>
    rw [judge, judge, FontSizeRange.affected_judge, FontSizeRange.affected_judge]
    refine named_sublist Scan.id_describe Scan.id_describe fun n outside => ?_
    rw [Scan.fontSize, mixed] at outside
    exact FontSizeRange.outside_of_loosened lower upper outside
  | elementSize width height =>
    rw [judge, judge, ElementSize.affected_judge, ElementSize.affected_judge]
    refine named_sublist (fun _ => rfl) (fun _ => rfl) fun n amiss => ?_
    rw [Bool.and_eq_true] at amiss ⊢
    exact ⟨amiss.1, ElementSize.tooSmall_of_le width height amiss.2⟩
  | labelPresence window =>
    rw [judge, judge, LabelPresence.affected_judge, LabelPresence.affected_judge]
    exact named_sublist (fun _ => rfl) (fun _ => rfl) fun n =>
      lacks_of_easier (LabelPresence.hasLabel_of_wider window)
  | altTextPresence window =>
    rw [judge, judge, AltTextPresence.affected_judge, AltTextPresence.affected_judge]
    exact named_sublist (fun _ => rfl) (fun _ => rfl) fun n =>
      lacks_of_easier (AltTextPresence.isDescribed_of_wider window)
  | headingPresence size =>
    rw [judge, judge, HeadingPresence.affected_judge, HeadingPresence.affected_judge]

/-- A scan that passes keeps passing with a looser threshold. -/
theorem Loosened.isPassed (loosened : Loosened t t' r r')
    (passed : (r.judge ⟨nodes, host, t⟩).isPassed = true) :
    (r'.judge ⟨nodes, host, t'⟩).isPassed = true := by
  have fewer : ((r'.judge ⟨nodes, host, t'⟩).affected.map (·.id)).Sublist
      ((r.judge ⟨nodes, host, t⟩).affected.map (·.id)) := loosened.ids_sublist
  cases loosened with
  | fontSize | elementSize | labelPresence | altTextPresence =>
    rw [isPassed_iff_affected rfl] at passed ⊢
    rw [passed, List.map_nil] at fewer
    exact List.map_eq_nil_iff.mp (List.sublist_nil.mp fewer)
  | headingPresence size =>
    rw [judge, HeadingPresence.isPassed_judge] at passed ⊢
    obtain ⟨n, listed, text, heading⟩ := passed
    exact ⟨n, listed, text, HeadingPresence.isHeading_of_le size heading⟩

end Requirement

/-! ### Findings -/

namespace Rule

/-- A rule with a looser threshold names some of the elements that it named before, in their order,
and passes if it passed before. -/
theorem finding_of_loosened (condition : rule.condition = .valid r)
    (condition' : rule'.condition = .valid r') (loosened : Requirement.Loosened t t' r r')
    (d : Document) (nodes : List Node) :
    (((rule'.findingOn d t' nodes).affected.map (·.id)).Sublist
      ((rule.findingOn d t nodes).affected.map (·.id))) ∧
    ((rule.findingOn d t nodes).status = .passed →
      (rule'.findingOn d t' nodes).status = .passed) := by
  rw [findingOn, findingOn, affected_finding condition, affected_finding condition',
    finding_passed_iff condition, finding_passed_iff condition']
  exact ⟨loosened.ids_sublist, loosened.isPassed⟩

/-- A label that may lie less than so many pixels above or below its field. -/
def labelsWithin (pixels : Nat) : Thresholds :=
  { labelWindow := ⟨200, pixels.toFloat⟩ }

/-- The second field lies four hundred pixels below its label. A window of as many pixels ends right
before it, and one more pixel is enough. -/
theorem finding_of_loosened_phone :
    let rule : Rule := ⟨"labels", "Label the fields", none, .valid (.labelPresence ⟨none⟩)⟩
    let finding pixels := rule.findingOn signUpDocument (labelsWithin pixels) signUpDocument.nodes
    let named pixels := (finding pixels).affected.map (·.id)
    named 400 = ["phone"] ∧ named 401 = [] ∧ (named 401).Sublist (named 400) ∧
      (finding 401).status = .passed ∧ (finding 500).status = .passed := by
  intro rule finding named
  have condition : rule.condition = .valid (.labelPresence ⟨none⟩) := rfl
  have longer : (labelsWithin 400).labelWindow.Wider (labelsWithin 401).labelWindow :=
    ⟨by decide +kernel, by decide +kernel⟩
  have longest : (labelsWithin 401).labelWindow.Wider (labelsWithin 500).labelWindow :=
    ⟨by decide +kernel, by decide +kernel⟩
  have passed : (finding 401).status = .passed := by decide +kernel
  exact ⟨by decide +kernel, by decide +kernel,
    (finding_of_loosened condition condition (.labelPresence longer) _ _).1, passed,
    (finding_of_loosened condition condition (.labelPresence longest) _ _).2 passed⟩

end Rule

end CanvasLint
