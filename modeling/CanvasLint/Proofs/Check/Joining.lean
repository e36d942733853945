import CanvasLint.Proofs.Canvas.Collection
import CanvasLint.Proofs.Check.Verdicts

/-! What a scan of two lists of elements has to do with the scans of each. Where one element is
looked for, it may lie in either list. Where every element is looked at by itself, the scan of both
names what the two scans name. Where elements need others near them, more elements can only help;
and what may be there once only may be there once only in each list. -/
namespace CanvasLint

open Canvas (Document Host Node Tree)

variable {rule : Rule} {r : Requirement} {host : Host} {t : Thresholds}
  {A B : List Node} {d : Document} {ts : List Tree}

namespace RuleKind

/-- Rules of this kind look for an element. -/
def seeks : RuleKind → Bool
  | requiredText | requiredComponent | componentPresence | headingPresence => true
  | _ => false

/-- Rules of this kind look at every element by itself. -/
def looksAtEach : RuleKind → Bool
  | fontSize | colorContrast | elementSize | imageAlt => true
  | _ => false

/-- Rules of this kind look for something near each of some elements. -/
def looksNear : RuleKind → Bool
  | labelPresence | altTextPresence => true
  | _ => false

theorem blames_of_looksAtEach {type : RuleKind} (each : type.looksAtEach = true) :
    type.blames = true := by
  cases type with
  | fontSize | colorContrast | elementSize | imageAlt => rfl
  | _ => cases each

end RuleKind

namespace Requirement

/-! ### Looking for an element -/

/-- Whether an element is the one that is looked for does not depend on the others. -/
theorem exists_sought (seeks : r.kind.seeks = true) (host : Host) (t : Thresholds) :
    ∃ sought : Node → Prop, ∀ nodes,
      (r.judge ⟨nodes, host, t⟩).isPassed = true ↔ ∃ n ∈ nodes, sought n := by
  cases r with
  | requiredText r => exact ⟨_, fun nodes => r.isPassed_judge ⟨nodes, host, t⟩⟩
  | requiredComponent r =>
    exact ⟨(r.isInstanceOf ⟨[], host, t⟩ ·), fun nodes => r.isPassed_judge ⟨nodes, host, t⟩⟩
  | componentPresence r => exact ⟨_, fun nodes => r.isPassed_judge ⟨nodes, host, t⟩⟩
  | headingPresence r =>
    exact ⟨fun n => n.isText = true ∧ HeadingPresence.isHeading t n = true,
      fun nodes => HeadingPresence.isPassed_judge ⟨nodes, host, t⟩⟩
  | fontSize r | colorContrast r | elementSize r | labelPresence r | textUniqueness r
  | altTextPresence r | elementAlignment r | spacing r | imageAlt => cases seeks

theorem isPassed_append_of_seeks (seeks : r.kind.seeks = true) :
    (r.judge ⟨A ++ B, host, t⟩).isPassed = true ↔
      (r.judge ⟨A, host, t⟩).isPassed = true ∨ (r.judge ⟨B, host, t⟩).isPassed = true := by
  obtain ⟨sought, passes⟩ := exists_sought seeks host t
  simp only [passes, List.mem_append, or_and_right, exists_or]

/-! ### Looking at every element by itself -/

/-- What is named of two lists together is what is named of each. -/
theorem affected_append (each : r.kind.looksAtEach = true) :
    (r.judge ⟨A ++ B, host, t⟩).affected =
      (r.judge ⟨A, host, t⟩).affected ++ (r.judge ⟨B, host, t⟩).affected := by
  cases r with
  | fontSize r =>
    simp only [judge, FontSizeRange.affected_judge, Scan.texts, List.filter_append, List.map_append]
    rfl
  | colorContrast r =>
    simp only [judge, ColorContrast.affected_judge, Scan.texts, List.filter_append,
      List.filterMap_append]
    rfl
  | elementSize r =>
    simp only [judge, ElementSize.affected_judge, List.filter_append, List.map_append]
  | imageAlt =>
    simp only [judge, ImageAlt.affected_judge, List.filter_append, List.map_append]
  | requiredText r | requiredComponent r | componentPresence r | labelPresence r | textUniqueness r
  | headingPresence r | altTextPresence r | elementAlignment r | spacing r => cases each

/-! ### Looking near elements -/

/-- An element is named if it needs another one near it and has none. What it needs, and who can
help it, does not depend on the other elements. -/
theorem exists_needs (near : r.kind.looksNear = true) (host : Host) (t : Thresholds) :
    ∃ (needs : Node → Bool) (helps : Node → Node → Bool) (entry : Node → AffectedNode),
      (∀ n, (entry n).id = n.id) ∧ ∀ nodes,
        (r.judge ⟨nodes, host, t⟩).affected =
          (nodes.filter fun n => needs n && !nodes.any (helps n)).map entry := by
  cases r with
  | labelPresence r =>
    refine ⟨r.isInput, fun input label => label.isText && (label.id != input.id
      && label.nameContains LabelPresence.labelName && t.labelWindow.near label input),
      fun n => (AffectedNode.ofNode n).withIssue "No associated label found", fun _ => rfl,
      fun nodes => ?_⟩
    simp only [judge, LabelPresence.affected_judge, LabelPresence.hasLabel, Scan.texts,
      List.any_filter]
  | altTextPresence r =>
    refine ⟨fun n => r.isImage n && !n.nameContainsAny AltTextPresence.descriptiveNames,
      fun image text => text.isText && t.altTextWindow.near text image,
      fun n => (AffectedNode.ofNode n).withIssue "No alt text or descriptive label found",
      fun _ => rfl, fun nodes => ?_⟩
    simp only [judge, AltTextPresence.affected_judge, AltTextPresence.isDescribed, Scan.texts,
      List.any_filter, Bool.not_or, Bool.and_assoc]
  | requiredText r | requiredComponent r | componentPresence r | fontSize r | colorContrast r
  | elementSize r | textUniqueness r | headingPresence r | elementAlignment r | spacing r
  | imageAlt => cases near

end Requirement

/-- Whoever lacks help among all elements lacks it among some of them. -/
private theorem lacks_of_append {needy : Bool} {p : Node → Bool}
    (lacks : (needy && !(A ++ B).any p) = true) :
    (needy && !A.any p) = true ∧ (needy && !B.any p) = true := by
  rw [List.any_append, Bool.not_or, Bool.and_eq_true, Bool.and_eq_true] at lacks
  rw [lacks.1, lacks.2.1, lacks.2.2]
  exact ⟨rfl, rfl⟩

/-- The entries are some of the first ones followed by some of the second ones. -/
def LeftOf (whole first second : List AffectedNode) : Prop :=
  ∃ left right, whole = left ++ right ∧ left.Sublist first ∧ right.Sublist second

namespace Requirement

/-- Of two lists together nothing is named that is not named of one of them. -/
theorem leftOf_affected_append (near : r.kind.looksNear = true) :
    LeftOf (r.judge ⟨A ++ B, host, t⟩).affected (r.judge ⟨A, host, t⟩).affected
      (r.judge ⟨B, host, t⟩).affected := by
  obtain ⟨needs, helps, entry, -, named⟩ := exists_needs near host t
  simp only [named]
  rw [List.filter_append, List.map_append]
  exact ⟨_, _, rfl, .map entry (List.monotone_filter_right A fun _ lacks => (lacks_of_append lacks).1),
    .map entry (List.monotone_filter_right B fun _ lacks => (lacks_of_append lacks).2)⟩

/-- An element of the first list that is named of both is named of the first. -/
theorem mem_affected_of_append (near : r.kind.looksNear = true)
    (alone : ∀ m ∈ A ++ B, ∀ n ∈ A, m.id = n.id → m = n) {n : Node} (member : n ∈ A)
    {a : AffectedNode} (named : a ∈ (r.judge ⟨A ++ B, host, t⟩).affected) (same : a.id = n.id) :
    a ∈ (r.judge ⟨A, host, t⟩).affected := by
  obtain ⟨needs, helps, entry, identity, affected⟩ := exists_needs near host t
  rw [affected] at named ⊢
  obtain ⟨m, kept, rfl⟩ := List.mem_map.mp named
  obtain ⟨listed, lacks⟩ := List.mem_filter.mp kept
  obtain rfl := alone m listed n member ((identity m).symm.trans same)
  exact List.mem_map_of_mem (List.mem_filter.mpr ⟨member, (lacks_of_append lacks).1⟩)

/-! ### Counting -/

/-- What is there once at most in both lists together is there once at most in each. -/
theorem isPassed_of_append (counts : r.kind = .textUniqueness)
    (passed : (r.judge ⟨A ++ B, host, t⟩).isPassed = true) :
    (r.judge ⟨A, host, t⟩).isPassed = true ∧ (r.judge ⟨B, host, t⟩).isPassed = true := by
  cases r with
  | textUniqueness r =>
    simp only [judge, TextUniqueness.isPassed_judge, Scan.texts, List.filter_append,
      List.length_append] at passed ⊢
    omega
  | requiredText r | requiredComponent r | componentPresence r | fontSize r | colorContrast r
  | elementSize r | labelPresence r | headingPresence r | altTextPresence r | elementAlignment r
  | spacing r | imageAlt => cases counts

end Requirement

/-! ### Findings -/

namespace Rule

/-- With more elements to scan, what is looked for is found if it was found in one of the parts,
what may be there once only has to be alone in each part, and of the elements that need something
near them only such are named as were named before. -/
theorem finding_append_grows (condition : rule.condition = .valid r)
    (reachable : Document.Reachable ts d) (known : ∀ n ∈ A ++ B, n ∈ d.nodes) (t : Thresholds) :
    let finding := rule.findingOn d t
    (r.kind.seeks = true → ((finding (A ++ B)).status = .passed ↔
      (finding A).status = .passed ∨ (finding B).status = .passed)) ∧
    (r.kind = .textUniqueness → (finding (A ++ B)).status = .passed →
      (finding A).status = .passed ∧ (finding B).status = .passed) ∧
    (r.kind.looksNear = true →
      LeftOf (finding (A ++ B)).affected (finding A).affected (finding B).affected ∧
      ∀ n ∈ A, ∀ a ∈ (finding (A ++ B)).affected, a.id = n.id → a ∈ (finding A).affected) := by
  have distinct := reachable.sound.distinct
  have nodes_eq := reachable.sound.nodes_eq
  have alone : ∀ m ∈ A ++ B, ∀ n ∈ A, m.id = n.id → m = n := fun m listed n member same =>
    Canvas.eq_of_id_eq distinct (nodes_eq ▸ known m listed)
      (nodes_eq ▸ known n (List.mem_append_left _ member)) same
  simp only [findingOn, finding_passed_iff condition, affected_finding condition]
  exact ⟨Requirement.isPassed_append_of_seeks, Requirement.isPassed_of_append, fun near =>
    ⟨Requirement.leftOf_affected_append near, fun n member a named same =>
      Requirement.mem_affected_of_append near alone member named same⟩⟩

/-- A sign-up form: a field with its label, and below it a field whose label is too far away. -/
def signUp : Canvas.Snapshot where
  selection := none
  trees := [.node { id := "form", kind := .frame, width := 400, height := 600 }
    (some [
      .node { id := "email", name := "field", kind := .frame, y := 40, width := 300 } none none,
      .node { id := "phone", name := "field", kind := .frame, y := 400, width := 300 } none none,
      .node { id := "caption", name := "label", kind := .text } none none]) none]

def signUpDocument : Document :=
  .ofForest signUp.trees ["form"]

theorem ofSnapshot_signUp : Document.ofSnapshot signUp = .ok signUpDocument := by
  rfl

/-- The label clears one of the two fields that were named without it. -/
theorem finding_append_grows_label :
    let rule : Rule := ⟨"labels", "Label the fields", none, .valid (.labelPresence ⟨none⟩)⟩
    let finding := rule.findingOn signUpDocument {}
    let fields := (signUpDocument.nodes.drop 1).take 2
    let labels := signUpDocument.nodes.drop 3
    (∀ n ∈ fields ++ labels, n ∈ signUpDocument.nodes) ∧
      (finding fields).affected.map (·.id) = ["email", "phone"] ∧
      (finding (fields ++ labels)).affected.map (·.id) = ["phone"] ∧
      LeftOf (finding (fields ++ labels)).affected (finding fields).affected
        (finding labels).affected := by
  intro rule finding fields labels
  have known : ∀ n ∈ fields ++ labels, n ∈ signUpDocument.nodes := fun n member =>
    List.mem_of_mem_drop (i := 1) member
  have condition : rule.condition = .valid (.labelPresence ⟨none⟩) := rfl
  obtain ⟨-, -, near⟩ := finding_append_grows condition (.made ofSnapshot_signUp) known {}
  exact ⟨known, by decide +kernel, by decide +kernel, (near rfl).1⟩

/-- A rule that looks at every element by itself names what it names of the elements one by one. So
it names of two lists together what it names of each, passes both together if and only if it passes
each, and fails as seriously for one as for the other. -/
theorem finding_append_each (condition : rule.condition = .valid r)
    (each : r.kind.looksAtEach = true) (d : Document) (t : Thresholds) (A B : List Node) :
    let finding := rule.findingOn d t
    (∀ nodes, (finding nodes).affected = nodes.flatMap fun n => (finding [n]).affected) ∧
    (finding (A ++ B)).affected = (finding A).affected ++ (finding B).affected ∧
    ((finding (A ++ B)).status = .passed ↔
      (finding A).status = .passed ∧ (finding B).status = .passed) ∧
    ∀ nodes ∈ [A, B, A ++ B], (finding nodes).status ≠ .passed →
      (finding nodes).status = .ofSeverity (rule.severity.getD r.kind.type.defaultSeverity) := by
  intro finding
  have append (A B : List Node) :
      (finding (A ++ B)).affected = (finding A).affected ++ (finding B).affected := by
    simp only [finding, findingOn, affected_finding condition]
    exact Requirement.affected_append each
  have passed_iff (nodes : List Node) :
      (finding nodes).status = .passed ↔ (finding nodes).affected = [] :=
    not_iff_not.mp ((rule.finding_wellFormed _).blaming r condition
      (RuleKind.blames_of_looksAtEach each))
  refine ⟨fun nodes => ?_, append A B, ?_, fun nodes _ failed => ?_⟩
  · induction nodes with
    | nil => exact List.map_eq_nil_iff.mp (List.sublist_nil.mp (rule.finding_wellFormed _).scanned)
    | cons n nodes ih =>
      rw [← List.singleton_append, append, ih, List.flatMap_append, List.flatMap_singleton]
  · simp only [passed_iff, append, List.append_eq_nil_iff]
  · exact (rule.finding_wellFormed _).severity r (requirement_eq_ok.mpr condition) failed

/-- The form itself is large enough, but the fields in it are not. -/
theorem finding_append_each_touch :
    let rule : Rule := ⟨"touch", "Make it large enough", none, .valid (.elementSize ⟨44, 44⟩)⟩
    let finding := rule.findingOn signUpDocument {}
    let form := signUpDocument.nodes.take 1
    let inside := signUpDocument.nodes.drop 1
    (finding (form ++ inside)).affected = (finding form).affected ++ (finding inside).affected ∧
      (finding inside).affected.map (·.id) = ["email", "phone"] ∧
      (finding form).status = .passed ∧ (finding inside).status = .warning ∧
      (finding (form ++ inside)).status = .warning := by
  intro rule finding form inside
  have condition : rule.condition = .valid (.elementSize ⟨44, 44⟩) := rfl
  obtain ⟨-, append, passed_iff, failure⟩ :=
    finding_append_each condition rfl signUpDocument {} form inside
  have failed : (finding inside).status ≠ .passed := by decide +kernel
  have failed' : (finding (form ++ inside)).status ≠ .passed := fun passed =>
    failed (passed_iff.mp passed).2
  exact ⟨append, by decide +kernel, by decide +kernel, failure _ (by simp) failed,
    failure _ (by simp) failed'⟩

end Rule

end CanvasLint
