import CanvasLint.Config.Basic
import CanvasLint.Proofs.Canvas.Views
import CanvasLint.Proofs.Report.Accounting

/-! What a configuration that turns no rule off makes of a report. A severity weighs on failures of
rules that could be judged and on nothing else; so failures may move between the warnings and the
errors, while what has passed stays as it was, and with it the score. -/
namespace CanvasLint

open Canvas (Document Node)

variable {c : Config} {rule : Rule} {rules : List Rule} {f f' : Finding} {fs fs' : List Finding}

/-- Findings that differ only in how serious they are, if they are failures. -/
structure Finding.SameButSeverity (f f' : Finding) : Prop where
  rest : f' = { f with status := f'.status }
  passed_iff : f'.status = .passed ↔ f.status = .passed

/-- What becomes of the finding of a rule for which another severity may have been chosen. -/
structure Finding.Reweighed (rule : Rule) (choice : Option Severity) (f f' : Finding) : Prop
    extends SameButSeverity f f' where
  unchosen : choice = none → f' = f
  chosen : ∀ r severity, rule.condition = .valid r → choice = some severity → f'.status ≠ .passed →
    f'.status = .ofSeverity severity
  unjudged : (∀ r, rule.condition ≠ .valid r) → f.status = .error ∧ f'.status = .error

/-- What has passed has no severity to differ in. -/
theorem Finding.SameButSeverity.eq_of_passed (same : f.SameButSeverity f')
    (passed : f.status = .passed) : f' = f := by
  rw [same.rest, same.passed_iff.mpr passed, ← passed]

/-! ### Rules -/

namespace Config

theorem adjust_eq (c : Config) (rule : Rule) :
    c.adjust rule = { rule with severity := (c.severityOf rule.id).or rule.severity } := by
  rw [adjust]
  cases c.severityOf rule.id <;> rfl

/-- Where no rule is turned off, every rule stays. -/
theorem apply_eq_map (enabled : ∀ rule ∈ rules, c.isEnabled rule.id = true) :
    c.apply rules = rules.map c.adjust := by
  rw [apply, List.filter_eq_self.mpr enabled]

end Config

namespace Rule

/-- Only the severity of a failure comes from the severity of the rule. -/
theorem finding_sameButSeverity (rule : Rule) (severity : Option Severity) (s : Scan) :
    (rule.finding s).SameButSeverity (finding { rule with severity } s) := by
  have same : requirement { rule with severity } = rule.requirement := rfl
  rw [finding, finding, same]
  cases rule.requirement with
  | error e => exact ⟨rfl, .rfl⟩
  | ok r =>
    dsimp only
    cases r.judge s with
    | passed message => exact ⟨rfl, .rfl⟩
    | unverified message => exact ⟨rfl, .rfl⟩
    | failed message affected =>
      exact ⟨rfl, iff_of_false (Status.ofSeverity_ne_passed _) (Status.ofSeverity_ne_passed _)⟩

theorem status_of_unusable (unusable : ∀ r, rule.condition ≠ .valid r) (s : Scan) :
    (rule.finding s).status = .error := by
  cases outcome : rule.requirement with
  | error e => exact ((rule.finding_wellFormed s).unjudged e outcome).1
  | ok r => exact absurd (requirement_eq_ok.mp outcome) (unusable r)

theorem finding_adjust (c : Config) (rule : Rule) (s : Scan) :
    (rule.finding s).Reweighed rule (c.severityOf rule.id) ((c.adjust rule).finding s) := by
  have adjusted := c.adjust_eq rule
  refine { adjusted ▸ rule.finding_sameButSeverity _ s with
    unchosen := fun none => ?_
    chosen := fun r severity usable some failed => ?_
    unjudged := fun unusable => ?_ }
  · rw [adjusted, none, Option.none_or]
  · have usable' : (c.adjust rule).requirement = .ok r := by
      rw [adjusted]
      exact requirement_eq_ok.mpr usable
    rw [((c.adjust rule).finding_wellFormed s).severity r usable' failed, adjusted, some]
    rfl
  · have unusable' : ∀ r, (c.adjust rule).condition ≠ .valid r := by
      rw [adjusted]
      exact unusable
    exact ⟨status_of_unusable unusable s, status_of_unusable unusable' s⟩

end Rule

namespace Report

/-! ### Reports -/

theorem filter_passed_eq (same : List.Forall₂ Finding.SameButSeverity fs fs') :
    fs'.filter (·.status = .passed) = fs.filter (·.status = .passed) := by
  induction same with
  | nil => rfl
  | @cons f f' fs fs' first _ ih =>
    by_cases passed : f.status = .passed
    · obtain rfl := first.eq_of_passed passed
      simp [passed, ih]
    · have failed : f'.status ≠ .passed := mt first.passed_iff.mp passed
      simp [passed, failed, ih]

/-- Choosing severities leaves what has passed, the score and the number of elements as they are.
Rule by rule it changes nothing but how serious a failure is: as serious as was chosen, unless the
rule could not be judged. -/
theorem ofRules_apply (enabled : ∀ rule ∈ rules, c.isEnabled rule.id = true) (d : Document)
    (t : Thresholds) (nodes : List Node) :
    let r := ofRules d t nodes rules
    let r' := ofRules d t nodes (c.apply rules)
    r'.passed = r.passed ∧ r'.score = r.score ∧ r'.nodesScanned = r.nodesScanned ∧
      ∃ fs fs', Yields d t nodes rules fs ∧ r.Lists fs ∧
        Yields d t nodes (c.apply rules) fs' ∧ r'.Lists fs' ∧
        ∀ (i : Nat) (rule : Rule), rules[i]? = some rule → ∃ f f', fs[i]? = some f ∧
          fs'[i]? = some f' ∧ f.Reweighed rule (c.severityOf rule.id) f' := by
  intro r r'
  let s : Scan := ⟨nodes, d.host, t⟩
  have each : List.Forall₂ Finding.SameButSeverity (rules.map (·.finding s))
      ((c.apply rules).map (·.finding s)) := by
    rw [Config.apply_eq_map enabled, List.map_map, List.forall₂_map_left_iff,
      List.forall₂_map_right_iff, List.forall₂_same]
    exact fun rule _ => (rule.finding_adjust c s).toSameButSeverity
  have passed : r'.passed = r.passed := filter_passed_eq each
  refine ⟨passed, ?_, rfl, _, _, yields_finding d t nodes rules, lists_ofFindings _ _,
    yields_finding d t nodes (c.apply rules), lists_ofFindings _ _, fun i rule place => ?_⟩
  · change scoreOf r'.passed.length _ = scoreOf r.passed.length _
    rw [passed, each.length_eq]
  · refine ⟨_, _, ?_, ?_, rule.finding_adjust c s⟩
    · rw [List.getElem?_map, place, Option.map_some]
    · rw [Config.apply_eq_map enabled, List.getElem?_map, List.getElem?_map, place,
        Option.map_some, Option.map_some]

/-- Two rules that fail on the bulletin, one of no known kind, and one that passes. -/
def offerRules : List Rule := [
  ⟨"offer", "Mention the offer", none, .valid (.requiredText ⟨"offer", false⟩)⟩,
  ⟨"heading", "Have a heading", some .warning, .valid (.headingPresence ⟨none⟩)⟩,
  ⟨"odd", "Be odd", none, .unknown "oddity" .null⟩,
  ⟨"images", "Describe images", none, .valid .imageAlt⟩]

/-- Makes the first rule milder and the second one more serious, and tries the same with the rest. -/
def otherWeights : Config where
  overrides := [("offer", { severity := some .warning }),
    ("heading", { enabled := some true, severity := some .error }),
    ("odd", { severity := some .warning }), ("images", { severity := some .warning })]

theorem ofRules_apply_offer :
    (∀ rule ∈ offerRules, otherWeights.isEnabled rule.id = true) ∧
    let d := Canvas.Document.bulletinDocument
    let r := ofRules d {} d.nodes offerRules
    let r' := ofRules d {} d.nodes (otherWeights.apply offerRules)
    r'.passed = r.passed ∧ r'.score = r.score ∧
      r.errors.map Finding.ruleId = ["offer", "odd"] ∧
      r'.errors.map Finding.ruleId = ["heading", "odd"] := by
  have enabled : ∀ rule ∈ offerRules, otherWeights.isEnabled rule.id = true := by decide
  obtain ⟨passed, score, -, -⟩ := ofRules_apply enabled Canvas.Document.bulletinDocument {}
    Canvas.Document.bulletinDocument.nodes
  exact ⟨enabled, passed, score, by decide +kernel, by decide +kernel⟩

end Report

end CanvasLint
