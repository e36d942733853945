import CanvasLint.Report.Run
import Mathlib.Data.List.Forall2
import Mathlib.Data.List.Perm.Basic

/-! What the findings of a scan have in common. Every rule has exactly one finding, which repeats
who the rule is. A failure is as serious as the rule or else its kind says, unless the rule could not
be judged at all; it names scanned elements in the order of the scan, while a rule that passed blames
nobody. -/
namespace CanvasLint

open Canvas (Document Node NodeId NodeKind)

variable {nodes picked : List Node} {r : Requirement} {s : Scan}

/-- What an entry of a finding repeats about an element to say which one it is. -/
def Canvas.Node.identity (n : Node) : NodeId × String × NodeKind :=
  (n.id, n.name, n.kind)

def AffectedNode.identity (a : AffectedNode) : NodeId × String × NodeKind :=
  (a.id, a.name, a.kind)

/-- The entries name some of the elements, in their order. -/
def PickedFrom (nodes : List Node) (affected : List AffectedNode) : Prop :=
  (affected.map AffectedNode.identity).Sublist (nodes.map Node.identity)

/-! ### Entries for elements that were picked out -/

theorem Scan.identity_describe (n : Node) : (s.describe n).identity = n.identity := by
  rw [describe, AffectedNode.describe]
  split <;> rfl

theorem Scan.id_describe (n : Node) : (s.describe n).id = n.id :=
  congrArg Prod.fst (s.identity_describe n)

theorem PickedFrom.map (scanned : picked.Sublist nodes) {entry : Node → AffectedNode}
    (same : ∀ n, (entry n).identity = n.identity) : PickedFrom nodes (picked.map entry) := by
  have repeated : (picked.map entry).map AffectedNode.identity = picked.map Node.identity := by
    rw [List.map_map]
    exact List.map_congr_left fun n _ => same n
  rw [PickedFrom, repeated]
  exact scanned.map Node.identity

/-- Entries that are made for some of the elements only. -/
theorem PickedFrom.filterMap (scanned : picked.Sublist nodes) {entry : Node → Option AffectedNode}
    (same : ∀ n a, entry n = some a → a.identity = n.identity) :
    PickedFrom nodes (picked.filterMap entry) := by
  refine List.Sublist.trans ?_ (scanned.map Node.identity)
  clear scanned
  induction picked with
  | nil => exact .refl _
  | cons n picked ih =>
    cases made : entry n with
    | none =>
      rw [List.filterMap_cons_none made]
      exact ih.cons _
    | some a =>
      rw [List.filterMap_cons_some made, List.map_cons, List.map_cons, same n a made]
      exact ih.cons_cons _

/-! ### Verdicts -/

/-- A verdict on what was looked into: a failure picks entries from the scanned elements, and has the
given severity. -/
inductive Verdict.Judged (severity : Severity) (nodes : List Node) : Verdict → Prop
  | passed (message : String) : Judged severity nodes (.passed message)
  | failed (message : String) {affected : List AffectedNode} (named : PickedFrom nodes affected) :
      Judged severity nodes (.failed severity message affected)

/-- A verdict that fails because of elements: a failure picks some entries at least. -/
inductive Verdict.Blaming (severity : Severity) (nodes : List Node) : Verdict → Prop
  | passed (message : String) : Blaming severity nodes (.passed message)
  | failed (message : String) {affected : List AffectedNode} (some : affected ≠ [])
      (named : PickedFrom nodes affected) :
      Blaming severity nodes (.failed severity message affected)

theorem Verdict.Blaming.judged {severity : Severity} {v : Verdict}
    (blaming : v.Blaming severity nodes) : v.Judged severity nodes := by
  cases blaming with
  | passed message => exact .passed message
  | failed message some named => exact .failed message named

/-- Rules of this kind fail because of elements. The other kinds miss something, or are not
judged. -/
def RuleKind.blames : RuleKind → Bool
  | fontSize | colorContrast | elementSize | labelPresence | textUniqueness | altTextPresence
  | imageAlt => true
  | requiredText | requiredComponent | componentPresence | headingPresence | elementAlignment
  | spacing => false

theorem texts_sublist : s.texts.Sublist s.nodes :=
  List.filter_sublist

/-- A check that fails if there are elements to blame. -/
private theorem blaming_ite {α : Type} {failing : List α} {affected : List AffectedNode}
    {severity : Severity} {success failure : String} (all : affected.length = failing.length)
    (named : PickedFrom nodes affected) :
    Verdict.Blaming severity nodes
      (if failing.isEmpty then .passed success else .failed severity failure affected) := by
  split
  · exact .passed _
  · rename_i some
    refine .failed _ (fun none => some ?_) named
    rw [List.isEmpty_iff, ← List.length_eq_zero_iff, ← all, none, List.length_nil]

theorem FontSizeRange.judge_blaming (r : FontSizeRange) (s : Scan) :
    (r.judge s).Blaming ruleType.defaultSeverity s.nodes :=
  blaming_ite (List.length_map _)
    (.map (List.filter_sublist.trans texts_sublist) Scan.identity_describe)

theorem ColorContrast.judge_blaming (r : ColorContrast) (s : Scan) :
    (r.judge s).Blaming ruleType.defaultSeverity s.nodes := by
  refine blaming_ite rfl (.filterMap texts_sublist fun n a made => ?_)
  obtain ⟨issue, -, rfl⟩ := Option.map_eq_some_iff.mp made
  exact Scan.identity_describe n

theorem ElementSize.judge_blaming (r : ElementSize) (s : Scan) :
    (r.judge s).Blaming ruleType.defaultSeverity s.nodes :=
  blaming_ite (List.length_map _) (.map List.filter_sublist fun _ => rfl)

theorem LabelPresence.judge_blaming (r : LabelPresence) (s : Scan) :
    (r.judge s).Blaming ruleType.defaultSeverity s.nodes :=
  blaming_ite (List.length_map _) (.map List.filter_sublist fun _ => rfl)

theorem AltTextPresence.judge_blaming (r : AltTextPresence) (s : Scan) :
    (r.judge s).Blaming ruleType.defaultSeverity s.nodes :=
  blaming_ite (List.length_map _) (.map List.filter_sublist fun _ => rfl)

theorem ImageAlt.judge_blaming (s : Scan) :
    (ImageAlt.judge s).Blaming ruleType.defaultSeverity s.nodes :=
  blaming_ite (List.length_map _) (.map List.filter_sublist fun _ => rfl)

/-- Two mentions are already too many, so there are some to name. -/
theorem TextUniqueness.judge_blaming (r : TextUniqueness) (s : Scan) :
    (r.judge s).Blaming ruleType.defaultSeverity s.nodes := by
  unfold judge
  dsimp only
  split
  · exact .passed _
  · rename_i several
    refine .failed _ (fun none => several ?_)
      (.map (List.filter_sublist.trans texts_sublist) fun _ => rfl)
    rw [List.map_eq_nil_iff.mp none]
    exact Nat.zero_le 1

theorem RequiredText.judge_judged (r : RequiredText) (s : Scan) :
    (r.judge s).Judged ruleType.defaultSeverity s.nodes := by
  unfold judge
  dsimp only
  split
  · exact .failed _ (.map texts_sublist Scan.identity_describe)
  · exact .passed _

theorem RequiredComponent.judge_judged (r : RequiredComponent) (s : Scan) :
    (r.judge s).Judged ruleType.defaultSeverity s.nodes := by
  unfold judge
  split
  · exact .passed _
  · exact .failed _ (List.nil_sublist _)

theorem ComponentPresence.judge_judged (r : ComponentPresence) (s : Scan) :
    (r.judge s).Judged ruleType.defaultSeverity s.nodes := by
  unfold judge
  dsimp only
  split
  · exact .failed _ (List.nil_sublist _)
  · exact .passed _

theorem HeadingPresence.judge_judged (s : Scan) :
    (HeadingPresence.judge s).Judged ruleType.defaultSeverity s.nodes := by
  unfold judge
  dsimp only
  split
  · exact .failed _ (List.nil_sublist _)
  · exact .passed _

namespace Requirement

theorem judge_blaming (s : Scan) (blames : r.kind.blames = true) :
    (r.judge s).Blaming r.kind.type.defaultSeverity s.nodes := by
  cases r with
  | fontSize r => exact r.judge_blaming s
  | colorContrast r => exact r.judge_blaming s
  | elementSize r => exact r.judge_blaming s
  | labelPresence r => exact r.judge_blaming s
  | textUniqueness r => exact r.judge_blaming s
  | altTextPresence r => exact r.judge_blaming s
  | imageAlt => exact ImageAlt.judge_blaming s
  | requiredText r | requiredComponent r | componentPresence r | headingPresence r
  | elementAlignment r | spacing r => cases blames

theorem judge_judged (s : Scan) (verified : r.kind.type.verified = true) :
    (r.judge s).Judged r.kind.type.defaultSeverity s.nodes := by
  cases r with
  | requiredText r => exact r.judge_judged s
  | requiredComponent r => exact r.judge_judged s
  | componentPresence r => exact r.judge_judged s
  | headingPresence r => exact HeadingPresence.judge_judged s
  | fontSize r | colorContrast r | elementSize r | labelPresence r | textUniqueness r
  | altTextPresence r | imageAlt => exact (judge_blaming s rfl).judged
  | elementAlignment r | spacing r => cases verified

theorem exists_judge_eq_unverified (s : Scan) (unverified : r.kind.type.verified = false) :
    ∃ message, r.judge s = .unverified message := by
  cases r with
  | elementAlignment r => exact ⟨_, rfl⟩
  | spacing r => exact ⟨_, rfl⟩
  | _ => cases unverified

end Requirement

/-! ### Findings -/

/-- What holds of the finding of a rule, whatever the rule and the scanned elements. -/
structure Finding.WellFormed (rule : Rule) (nodes : List Node) (f : Finding) : Prop where
  ruleId : f.ruleId = rule.id
  description : f.description = rule.description
  /-- What cannot be judged is of an unknown kind, or asks for what makes no sense. -/
  unjudged_iff : (∃ e, rule.requirement = .error e) ↔
    (∃ type raw, rule.condition = .unknown type raw) ∨
      ∃ type reason raw, rule.condition = .invalid type reason raw
  unjudged : ∀ e, rule.requirement = .error e → f.status = .error ∧ f.affected = []
  severity : ∀ r, rule.requirement = .ok r → f.status ≠ .passed →
    f.status = .ofSeverity (rule.severity.getD r.kind.type.defaultSeverity)
  blameless : f.status = .passed → f.affected = []
  unverified_iff : f.unverified = true ↔
    ∃ r, rule.condition = .valid r ∧ (r.kind = .elementAlignment ∨ r.kind = .spacing)
  trusted : f.unverified = true → f.status = .passed
  scanned : PickedFrom nodes f.affected
  blaming : ∀ r, rule.condition = .valid r → r.kind.blames = true →
    (f.status ≠ .passed ↔ f.affected ≠ [])

theorem RuleKind.verified_eq_false_iff {kind : RuleKind} :
    kind.type.verified = false ↔ kind = .elementAlignment ∨ kind = .spacing := by
  cases kind <;> decide

theorem Status.ofSeverity_ne_passed (severity : Severity) : ofSeverity severity ≠ passed := by
  cases severity <;> nofun

namespace Rule

variable {rule : Rule}

theorem requirement_eq_ok : rule.requirement = .ok r ↔ rule.condition = .valid r := by
  rw [requirement]
  cases rule.condition with
  | valid r' => simp
  | unknown type raw => exact ⟨nofun, nofun⟩
  | invalid type reason raw => exact ⟨nofun, nofun⟩

theorem exists_requirement_eq_error : (∃ e, rule.requirement = .error e) ↔
    (∃ type raw, rule.condition = .unknown type raw) ∨
      ∃ type reason raw, rule.condition = .invalid type reason raw := by
  rw [requirement]
  cases rule.condition with
  | valid r => simp
  | unknown type raw => simp
  | invalid type reason raw => simp

/-- The finding of a rule that cannot be judged. -/
private theorem wellFormed_of_error {e : CheckError} (outcome : rule.requirement = .error e)
    (message : String) : (rule.findingOf .error message [] false).WellFormed rule nodes := by
  have unusable (r : Requirement) : rule.condition ≠ .valid r := fun known => by
    rw [requirement_eq_ok.mpr known] at outcome
    cases outcome
  exact {
    ruleId := rfl
    description := rfl
    unjudged_iff := exists_requirement_eq_error
    unjudged := fun _ _ => ⟨rfl, rfl⟩
    severity := fun r known => absurd (requirement_eq_ok.mp known) (unusable r)
    blameless := fun _ => rfl
    unverified_iff := ⟨nofun, fun ⟨r, known, _⟩ => absurd known (unusable r)⟩
    trusted := nofun
    scanned := List.nil_sublist _
    blaming := fun r known => absurd known (unusable r) }

/-- The finding of a rule that can be judged, by what its verdict has to do with its kind. -/
private theorem wellFormed_of_ok {status : Status} {affected : List AffectedNode}
    {unverified : Bool} (outcome : rule.requirement = .ok r) (message : String)
    (severity : status ≠ .passed → status = .ofSeverity (rule.severity.getD r.kind.type.defaultSeverity))
    (blameless : status = .passed → affected = [])
    (looked : unverified = !r.kind.type.verified) (trusted : unverified = true → status = .passed)
    (scanned : PickedFrom nodes affected)
    (blaming : r.kind.blames = true → (status ≠ .passed ↔ affected ≠ [])) :
    (rule.findingOf status message affected unverified).WellFormed rule nodes := by
  have only {r' : Requirement} (known : rule.condition = .valid r') : r' = r := by
    rw [requirement_eq_ok.mp outcome] at known
    exact (Condition.valid.inj known).symm
  have usable (e : CheckError) : rule.requirement ≠ .error e := by
    rw [outcome]
    nofun
  exact {
    ruleId := rfl
    description := rfl
    unjudged_iff := exists_requirement_eq_error
    unjudged := fun e failed => absurd failed (usable e)
    severity := fun r' known => only (requirement_eq_ok.mp known) ▸ severity
    blameless := blameless
    unverified_iff := by
      rw [findingOf, looked, Bool.not_eq_true', RuleKind.verified_eq_false_iff]
      exact ⟨fun kind => ⟨r, requirement_eq_ok.mp outcome, kind⟩,
        fun ⟨r', known, kind⟩ => only known ▸ kind⟩
    trusted := trusted
    scanned := scanned
    blaming := fun r' known => only known ▸ blaming }

private theorem wellFormed_of_passed {unverified : Bool} (outcome : rule.requirement = .ok r)
    (looked : unverified = !r.kind.type.verified) (message : String) :
    (rule.findingOf .passed message [] unverified).WellFormed rule nodes :=
  wellFormed_of_ok outcome message (absurd rfl) (fun _ => rfl) looked (fun _ => rfl)
    (List.nil_sublist _) fun _ => ⟨absurd rfl, absurd rfl⟩

/-- A rule has a finding that fits it. -/
theorem finding_wellFormed (rule : Rule) (s : Scan) : (rule.finding s).WellFormed rule s.nodes := by
  rw [finding]
  cases outcome : rule.requirement with
  | error e => exact wellFormed_of_error outcome _
  | ok r =>
    dsimp only
    cases verified : r.kind.type.verified with
    | false =>
      obtain ⟨message, verdict⟩ := Requirement.exists_judge_eq_unverified s verified
      rw [verdict]
      exact wellFormed_of_passed outcome (by rw [verified]; rfl) message
    | true =>
      have judged := Requirement.judge_judged s verified
      have blaming := Requirement.judge_blaming (r := r) s
      generalize r.judge s = verdict at judged blaming
      cases judged with
      | passed message => exact wellFormed_of_passed outcome (by rw [verified]; rfl) message
      | failed message named =>
        have fails := Status.ofSeverity_ne_passed (rule.severity.getD r.kind.type.defaultSeverity)
        refine wellFormed_of_ok outcome _ (fun _ => rfl) (absurd · fails) (by rw [verified]; rfl)
          nofun named fun blames => iff_of_true fails ?_
        cases blaming blames with
        | failed message some named => exact some

end Rule

/-! ### Reports -/

namespace Report

/-- A report leaves no finding out and puts none in. -/
theorem findings_ofFindings_perm (fs : List Finding) (count : Nat) :
    (ofFindings fs count).findings.Perm fs := by
  rw [findings, ofFindings]
  induction fs with
  | nil => exact .refl _
  | cons f fs ih =>
    -- the new finding comes first in its part of the report
    cases status : f.status <;>
      simp only [List.filter_cons, status, reduceCtorEq, decide_false, decide_true,
        Bool.false_eq_true, if_false, if_true]
    case error => exact ih.cons f
    case warning =>
      rw [List.append_assoc] at ih ⊢
      exact List.perm_middle.trans (ih.cons f)
    case passed => exact List.perm_middle.trans (ih.cons f)

/-- A scan has one finding for every rule, and it fits the rule. -/
theorem ofRules_wellFormed (d : Document) (t : Thresholds) (nodes : List Node) (rules : List Rule) :
    ∃ fs, (ofRules d t nodes rules).findings.Perm fs ∧
      List.Forall₂ (fun rule f => f.WellFormed rule nodes) rules fs :=
  ⟨_, findings_ofFindings_perm _ _,
    List.forall₂_map_right_iff.mpr (List.forall₂_same.mpr fun rule _ =>
      rule.finding_wellFormed ⟨nodes, d.host, t⟩)⟩

end Report

end CanvasLint
