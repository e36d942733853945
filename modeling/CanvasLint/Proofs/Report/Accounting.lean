import CanvasLint.Proofs.Check.Findings
import Mathlib.Data.List.Forall2

/-! A report accounts for every rule. It has the findings that the rules yield one by one, each in
the part for its status and there in the order of the rules; so the report of two lists of rules put
together consists of the reports of both. What is looked up by the id of a rule is the worst that
was found under that id. -/
namespace CanvasLint

open Canvas (Document Node)

variable {fs : List Finding} {f : Finding} {id : String} {status : Status} {severity : Severity}
  {d : Document} {t : Thresholds} {nodes : List Node} {rule : Rule} {rules more : List Rule}

/-! ### How bad findings are -/

/-- An error is more serious than a warning. -/
def Severity.rank : Severity → Nat
  | warning => 1
  | error => 2

namespace Status

/-- How bad it is that a rule turned out so. To pass is not bad at all. -/
def rank (status : Status) : Nat :=
  status.severity?.elim 0 Severity.rank

/-- The rule failed, and this is at least so serious. -/
def Reaches (status : Status) (severity : Severity) : Prop :=
  ∃ severity', status.severity? = some severity' ∧ severity.rank ≤ severity'.rank

theorem rank_injective : Function.Injective rank := by
  intro status status' same
  cases status <;> cases status' <;> cases same <;> rfl

theorem rank_le_error : status.rank ≤ error.rank := by
  cases status <;> decide

theorem rank_le_warning_iff : status.rank ≤ warning.rank ↔ status ≠ error := by
  cases status <;> decide

theorem rank_le_passed_iff : status.rank ≤ passed.rank ↔ status ≠ error ∧ status ≠ warning := by
  cases status <;> decide

theorem reaches_error_iff : status.Reaches .error ↔ status = error := by
  cases status <;> simp [Reaches, severity?, Severity.rank]

theorem reaches_warning_iff : status.Reaches .warning ↔ status = error ∨ status = warning := by
  cases status <;> simp [Reaches, severity?, Severity.rank]

end Status

/-- Among the findings with this id none is worse, and none of those before it is as bad. -/
def FirstWorst (fs : List Finding) (id : String) (f : Finding) : Prop :=
  ∃ before after, fs = before ++ f :: after ∧ f.ruleId = id ∧
    (∀ g ∈ before, g.ruleId = id → g.status.rank < f.status.rank) ∧
    ∀ g ∈ after, g.ruleId = id → g.status.rank ≤ f.status.rank

namespace Report

/-! ### The parts of a report -/

/-- The report lists these findings: every one in the part for its status, in their order. -/
structure Lists (r : Report) (fs : List Finding) : Prop where
  passed : r.passed = fs.filter (·.status = .passed)
  warnings : r.warnings = fs.filter (·.status = .warning)
  errors : r.errors = fs.filter (·.status = .error)

/-- Every part of the report is that of the first report with that of the second behind it. -/
structure Joins (r first second : Report) : Prop where
  passed : r.passed = first.passed ++ second.passed
  warnings : r.warnings = first.warnings ++ second.warnings
  errors : r.errors = first.errors ++ second.errors

theorem lists_ofFindings (fs : List Finding) (count : Nat) : (ofFindings fs count).Lists fs :=
  ⟨rfl, rfl, rfl⟩

theorem joins_ofFindings (fs gs : List Finding) (count count' count'' : Nat) :
    (ofFindings (fs ++ gs) count).Joins (ofFindings fs count') (ofFindings gs count'') :=
  ⟨List.filter_append .., List.filter_append .., List.filter_append ..⟩

/-- The first finding of a rule in the part for a status. -/
private def first? (fs : List Finding) (id : String) (status : Status) : Option Finding :=
  (fs.filter (·.status = status)).find? (·.ruleId == id)

private theorem first?_eq_none_iff :
    first? fs id status = none ↔ ∀ g ∈ fs, g.ruleId = id → g.status ≠ status := by
  simp only [first?, List.find?_eq_none, List.mem_filter, decide_eq_true_eq, beq_iff_eq, and_imp]
  exact forall₂_congr fun g _ => imp_not_comm

private theorem first?_eq_some_iff : first? fs id status = some f ↔
    f.status = status ∧ f.ruleId = id ∧ ∃ before after, fs = before ++ f :: after ∧
      ∀ g ∈ before, g.ruleId = id → g.status ≠ status := by
  rw [first?, List.find?_filter, List.find?_eq_some_iff_append, decide_eq_true_iff,
    decide_eq_true_iff, beq_iff_eq, and_assoc]
  refine and_congr_right fun _ => and_congr_right fun _ => exists₂_congr fun before after =>
    and_congr_right fun _ => forall₂_congr fun g _ => ?_
  simp [← imp_iff_or_not]

/-- The first of the worst findings is found in the part for its status, and no finding of the rule
is worse. -/
private theorem firstWorst_iff : FirstWorst fs id f ↔
    (∀ g ∈ fs, g.ruleId = id → g.status.rank ≤ f.status.rank) ∧
      first? fs id f.status = some f := by
  rw [first?_eq_some_iff]
  constructor
  · rintro ⟨before, after, rfl, named, less, le⟩
    refine ⟨fun g member same => ?_, rfl, named, before, after, rfl, fun g member same equal => ?_⟩
    · rcases List.mem_append.mp member with member | member
      · exact Nat.le_of_lt (less g member same)
      · rcases List.mem_cons.mp member with rfl | member
        · exact Nat.le_refl _
        · exact le g member same
    · exact absurd (congrArg Status.rank equal) (Nat.ne_of_lt (less g member same))
  · rintro ⟨le, -, named, before, after, rfl, differ⟩
    refine ⟨before, after, rfl, named, fun g member same => ?_, fun g member same => ?_⟩
    · have bounded := le g (List.mem_append_left _ member) same
      exact Nat.lt_of_le_of_ne bounded fun equal => differ g member same (Status.rank_injective equal)
    · exact le g (List.mem_append_right _ (List.mem_cons_of_mem _ member)) same

namespace Lists

variable {r : Report} (lists : r.Lists fs)

include lists

/-- Every finding is in exactly one part. -/
theorem findings_perm : r.findings.Perm fs := by
  rw [findings, lists.errors, lists.warnings, lists.passed]
  exact findings_ofFindings_perm fs 0

theorem count_eq : r.count = fs.length := by
  rw [← lists.findings_perm.length_eq, findings, count, List.length_append, List.length_append]
  omega

theorem hasFindingsAt_iff (severity : Severity) : r.hasFindingsAt severity = true ↔
    ∃ f ∈ fs, f.status.Reaches severity := by
  cases severity with
  | error => simp [hasFindingsAt, lists.errors, Status.reaches_error_iff]
  | warning =>
    simp [hasFindingsAt, lists.errors, lists.warnings, Status.reaches_warning_iff, and_or_left,
      exists_or]

theorem finding?_eq_none_iff : r.finding? id = none ↔ ∀ f ∈ fs, f.ruleId ≠ id := by
  simp only [finding?, List.find?_eq_none, lists.findings_perm.mem_iff, beq_iff_eq, ne_eq]

theorem finding?_eq : r.finding? id =
    (first? fs id .error).or ((first? fs id .warning).or (first? fs id .passed)) := by
  rw [finding?, findings, lists.errors, lists.warnings, lists.passed, List.find?_append,
    List.find?_append, Option.or_assoc]
  rfl

/-- The look-up goes from the errors to the passed findings, and so comes upon the worst first. -/
theorem finding?_eq_some_iff : r.finding? id = some f ↔ FirstWorst fs id f := by
  have elsewhere {status : Status} (differ : f.status ≠ status) :
      first? fs id status ≠ some f := fun found => differ (first?_eq_some_iff.mp found).1
  rw [firstWorst_iff, lists.finding?_eq, Option.or_eq_some_iff, Option.or_eq_some_iff,
    first?_eq_none_iff, first?_eq_none_iff]
  -- that nothing is worse means that the parts looked into before have nothing of the rule
  cases known : f.status with
  | error => simp [Status.rank_le_error, elsewhere, known]
  | warning => simp [Status.rank_le_warning_iff, elsewhere, known]
  | passed => simp [Status.rank_le_passed_iff, elsewhere, known, imp_and, forall_and, and_assoc]

end Lists

/-! ### The report of some rules -/

/-- The findings of rules of which each is judged alone. -/
def Yields (d : Document) (t : Thresholds) (nodes : List Node) (rules : List Rule)
    (fs : List Finding) : Prop :=
  List.Forall₂ (fun rule f => (ofRules d t nodes [rule]).findings = [f]) rules fs

/-- What the report of some rules says, by the findings that each of the rules yields alone. -/
structure Accounts (r : Report) (rules : List Rule) (fs : List Finding) : Prop where
  lists : r.Lists fs
  count : r.count = rules.length
  reached : ∀ severity, r.hasFindingsAt severity = true ↔ ∃ f ∈ fs, f.status.Reaches severity
  missing : ∀ id, r.finding? id = none ↔ ∀ rule ∈ rules, rule.id ≠ id
  found : ∀ id f, r.finding? id = some f ↔ FirstWorst fs id f

theorem findings_ofRules_singleton (d : Document) (t : Thresholds) (nodes : List Node)
    (rule : Rule) : (ofRules d t nodes [rule]).findings =
      [rule.finding ⟨nodes, d.host, t⟩] :=
  List.perm_singleton.mp (findings_ofFindings_perm _ _)

theorem yields_finding (d : Document) (t : Thresholds) (nodes : List Node) (rules : List Rule) :
    Yields d t nodes rules (rules.map (·.finding ⟨nodes, d.host, t⟩)) :=
  List.forall₂_map_right_iff.mpr (List.forall₂_same.mpr fun rule _ =>
    findings_ofRules_singleton d t nodes rule)

/-- A report has one finding for each rule, the one that the rule yields alone. It keeps the order
of the rules in each of its parts, and answers by what is worst. -/
theorem ofRules_accounts (d : Document) (t : Thresholds) (nodes : List Node) (rules : List Rule) :
    ∃ fs, Yields d t nodes rules fs ∧ (ofRules d t nodes rules).Accounts rules fs ∧
      ∀ more, (ofRules d t nodes (rules ++ more)).Joins (ofRules d t nodes rules)
        (ofRules d t nodes more) := by
  have lists : (ofRules d t nodes rules).Lists _ := lists_ofFindings _ _
  refine ⟨_, yields_finding d t nodes rules, ⟨lists, ?_, lists.hasFindingsAt_iff, fun id => ?_,
    fun id f => lists.finding?_eq_some_iff⟩, fun more => ?_⟩
  · rw [lists.count_eq, List.length_map]
  · have named (rule : Rule) (s : Scan) : (rule.finding s).ruleId = rule.id :=
      (rule.finding_wellFormed s).ruleId
    simp only [lists.finding?_eq_none_iff, List.forall_mem_map, named]
  · rw [ofRules, List.map_append]
    exact joins_ofFindings _ _ _ _ _

/-- Of three findings with one id, two of them warnings, the first warning is found. -/
example : let rules : List Rule := [
      ⟨"offer", "Describe images", none, .valid .imageAlt⟩,
      ⟨"offer", "Mention the offer", some .warning, .valid (.requiredText ⟨"offer", false⟩)⟩,
      ⟨"offer", "Have a heading", some .warning, .valid (.headingPresence ⟨none⟩)⟩]
    ((ofRules .empty {} [] rules).finding? "offer").map (·.description) =
      some "Mention the offer" := by
  rfl

end Report

end CanvasLint
