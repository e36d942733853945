import CanvasLint.Proofs.Canvas.Collection
import CanvasLint.Proofs.Command.CheckOutcome
import CanvasLint.Proofs.Report.Overrides
import CanvasLint.Proofs.Rule.Reasons
import CanvasLint.Proofs.Rule.RuleSetText

/-! The compact style, line by line. An entry is on one line if the id of its rule, its message and the
ids of its elements are. Messages repeat some texts of their rule as they are, so it is these texts
that decide whether a report has as many lines as findings. -/
namespace CanvasLint

open Canvas (Document Node)
open Text (Lines OneLine oneLine_append oneLine_append_iff_left oneLine_append_iff_right
  oneLine_ofList oneLine_plain)

/-- The texts that a message about the requirement repeats as they are. -/
def Requirement.quoted : Requirement → List String
  | requiredText r => [r.text]
  | requiredComponent r => [r.componentName]
  | componentPresence r => [r.componentName]
  | textUniqueness r => [r.targetText]
  | elementAlignment r => [r.target, r.alignment]
  | fontSize _ | colorContrast _ | elementSize _ | labelPresence _ | headingPresence _
  | altTextPresence _ | spacing _ | imageAlt => []

/-- The texts that the message about a rule repeats as they are. -/
def Rule.quoted (rule : Rule) : List String :=
  match rule.condition with
  | .valid r => r.quoted
  | .unknown type _ => [type]
  | .invalid .. => []

def Verdict.message : Verdict → String
  | passed message | unverified message | failed _ message _ => message

/-! ### Messages -/

theorem oneLine_countOf {noun : String} (plain : OneLine noun) (count : Nat) :
    OneLine (countOf count noun) := by
  rw [countOf]
  split <;> simp [OneLine, toString, plain]

namespace Requirement

variable {s : Scan} {c : Prop} [Decidable c] {v w : Verdict}

/-- A message of either outcome is on one line in the same case. -/
private theorem oneLine_ite {p : Prop} (first : OneLine v.message ↔ p)
    (second : OneLine w.message ↔ p) : OneLine (if c then v else w).message ↔ p := by
  split
  · exact first
  · exact second

/-- A message without a text of the rule. -/
private theorem oneLine_unquoted (first : OneLine v.message) (second : OneLine w.message) :
    OneLine (if c then v else w).message ↔ ∀ text ∈ ([] : List String), OneLine text :=
  oneLine_ite (iff_of_true first (List.forall_mem_nil _))
    (iff_of_true second (List.forall_mem_nil _))

/-- A message that has a text of the rule between texts of its own. -/
private theorem oneLine_quoting {front text back : String} (plain : OneLine front)
    (plain' : OneLine back) :
    OneLine (front ++ text ++ back) ↔ OneLine text :=
  (oneLine_append_iff_left plain').trans (oneLine_append_iff_right plain)

theorem oneLine_judge (r : Requirement) (s : Scan) :
    OneLine (r.judge s).message ↔ ∀ text ∈ r.quoted, OneLine text := by
  have element (count : Nat) : OneLine (countOf count "element") :=
    oneLine_countOf (by decide) count
  cases r with
  | requiredText r =>
    refine (oneLine_ite ?_ ?_).trans List.forall_mem_singleton.symm
    · exact oneLine_quoting (oneLine_ofList (by decide)) (oneLine_ofList (by decide))
    · refine (oneLine_append_iff_left (element _)).trans ?_
      exact oneLine_quoting (oneLine_ofList (by decide)) (oneLine_ofList (by decide))
  | fontSize r =>
    have count (n : Nat) : OneLine (countOf n "text element" ++ " ") :=
      (oneLine_countOf (by decide) n).append (by decide)
    refine oneLine_unquoted ?_ ((count _).append ?_)
    · cases r.max with
      | none =>
        exact ((oneLine_ofList (by decide)).append (oneLine_plain _)).append (by decide)
      | some max =>
        have least : OneLine ("All text is between " ++ Number.plain (r.lower s.thresholds)) :=
          (oneLine_ofList (by decide)).append (oneLine_plain _)
        exact ((least.append (oneLine_ofList (by decide))).append (oneLine_plain max)).append
          (by decide)
    · split <;> exact oneLine_ofList (by decide)
  | colorContrast r =>
    refine oneLine_unquoted ?_ ((element _).append (oneLine_ofList (by decide)))
    exact ((oneLine_ofList (by decide)).append (oneLine_plain _)).append (by decide)
  | requiredComponent r =>
    refine (oneLine_ite ?_ ?_).trans List.forall_mem_singleton.symm
    · exact oneLine_quoting (oneLine_ofList (by decide)) (oneLine_ofList (by decide))
    · exact oneLine_quoting (oneLine_ofList (by decide)) (oneLine_ofList (by decide))
  | componentPresence r =>
    refine (oneLine_ite ?_ ?_).trans List.forall_mem_singleton.symm
    · exact oneLine_quoting (by decide) (oneLine_ofList (by decide))
    · have front : OneLine ("Found " ++ countOf (s.nodes.filter r.fits).length "element") :=
        OneLine.append (by decide) (element _)
      refine (oneLine_append_iff_right front).trans ?_
      exact oneLine_quoting (oneLine_ofList (by decide)) (by decide)
  | elementSize r =>
    have sides : OneLine r.sides :=
      ((oneLine_plain _).append (by decide)).append (oneLine_plain _) |>.append (by decide)
    refine oneLine_unquoted ?_ ((oneLine_countOf (oneLine_ofList (by decide)) _).append ?_)
    · exact ((oneLine_ofList (by decide)).append sides).append (by decide)
    · exact ((oneLine_ofList (by decide)).append sides).append (by decide)
  | labelPresence r =>
    exact oneLine_unquoted (oneLine_ofList (by decide))
      ((oneLine_countOf (by decide) _).append (oneLine_ofList (by decide)))
  | textUniqueness r =>
    have times (count : Nat) : OneLine (toString count) := by simp [OneLine, toString]
    refine (oneLine_ite ?_ ?_).trans List.forall_mem_singleton.symm
    · refine (oneLine_append_iff_left (by decide)).trans ?_
      refine (oneLine_append_iff_left (times _)).trans ?_
      exact oneLine_quoting (by decide) (oneLine_ofList (by decide))
    · refine (oneLine_append_iff_left (oneLine_ofList (by decide))).trans ?_
      refine (oneLine_append_iff_left (times _)).trans ?_
      exact oneLine_quoting (by decide) (oneLine_ofList (by decide))
  | headingPresence r =>
    exact oneLine_unquoted (oneLine_ofList (by decide))
      (OneLine.append (by decide) (oneLine_countOf (by decide) _))
  | altTextPresence r =>
    exact oneLine_unquoted (oneLine_ofList (by decide))
      ((oneLine_countOf (by decide) _).append (oneLine_ofList (by decide)))
  | elementAlignment r =>
    refine (oneLine_append_iff_right ?_).trans ?_
    · exact OneLine.append (oneLine_ofList (by decide)) (element _)
    · refine (oneLine_append_iff_left (by decide)).trans ?_
      refine (oneLine_append.trans (and_congr_left' ?_)).trans
        (List.forall_mem_cons.trans (and_congr_right' List.forall_mem_singleton)).symm
      exact oneLine_quoting (by decide) (oneLine_ofList (by decide))
  | spacing r =>
    have range : OneLine r.range := by
      rw [Spacing.range]
      split <;> simp [OneLine, toString]
    refine iff_of_true ?_ (List.forall_mem_nil _)
    exact ((oneLine_ofList (by decide)).append range).append (by decide)
  | imageAlt =>
    exact oneLine_unquoted (oneLine_ofList (by decide))
      ((oneLine_countOf (by decide) _).append (oneLine_ofList (by decide)))

end Requirement

/-! ### Rules -/

/-- If a reason is given why the condition cannot be used, it is the one that there is. -/
def Condition.Justified (c : Condition) : Prop :=
  ∀ kind reason raw, c = .invalid kind reason raw → requirement kind raw = .error reason

theorem Condition.justified_read (name : String) (v : Json.Value) : (read name v).Justified := by
  intro kind reason raw invalid
  rcases read_cases name v with ⟨-, unknown⟩ | ⟨kind', reason', -, unusable, given⟩ | ⟨-, r, -, -, valid⟩
  · rw [unknown] at invalid
    cases invalid
  · rw [given] at invalid
    cases invalid
    exact unusable
  · rw [valid] at invalid
    cases invalid

namespace Rule

variable {rule : Rule}

theorem oneLine_message (justified : rule.condition.Justified) (s : Scan) :
    OneLine (rule.finding s).message ↔ ∀ text ∈ rule.quoted, OneLine text := by
  cases given : rule.condition with
  | valid r =>
    have usable : rule.requirement = .ok r := requirement_eq_ok.mpr given
    have same : (rule.finding s).message = (r.judge s).message := by
      rw [finding, usable]
      dsimp only
      cases r.judge s <;> rfl
    rw [same, r.oneLine_judge, quoted, given]
  | unknown type raw =>
    have said : (rule.finding s).message = "Rule check failed: " ++ ("Unknown rule type: " ++ type) := by
      rw [finding, requirement, given]
      rfl
    rw [said, quoted, given]
    simp [OneLine]
  | invalid kind reason raw =>
    have said : (rule.finding s).message = "Rule check failed: " ++
        ("Invalid condition for `" ++ kind.type.name ++ "`: " ++ reason.message) := by
      rw [finding, requirement, given]
      rfl
    have named : OneLine kind.type.name := by cases kind <;> decide
    have plain := Condition.oneLine_reason (justified kind reason raw given)
    rw [said, quoted, given]
    simp [OneLine, named, plain]

end Rule

namespace Report

/-! ### Entries -/

/-- The line begins with how the rule turned out and which rule it is. -/
def Heads (f : Finding) (line : String) : Prop :=
  ∃ rest, line = f.status.name ++ ": [" ++ f.ruleId ++ "] " ++ rest

/-- What an entry says behind the message. -/
def idsOf (f : Finding) : String :=
  let ids := ",".intercalate (f.affected.map (·.id))
  if ids.isEmpty then "" else " (" ++ ids ++ ")"

theorem compactEntry_eq (f : Finding) :
    compactEntry f = f.status.name ++ ": [" ++ f.ruleId ++ "] " ++ (f.message ++ idsOf f) := by
  rw [compactEntry, idsOf, ← String.append_assoc]
  rfl

theorem oneLine_idsOf (f : Finding) : OneLine (idsOf f) ↔ ∀ a ∈ f.affected, OneLine a.id := by
  have ids : OneLine (",".intercalate (f.affected.map (·.id))) ↔ ∀ a ∈ f.affected, OneLine a.id := by
    rw [Text.oneLine_intercalate (by decide), List.forall_mem_map]
  rw [← ids, idsOf]
  split
  · rename_i none
    rw [String.isEmpty_iff.mp none]
  · simp [OneLine]

theorem oneLine_compactEntry (f : Finding) : OneLine (compactEntry f) ↔
    OneLine f.ruleId ∧ OneLine f.message ∧ ∀ a ∈ f.affected, OneLine a.id := by
  have status : OneLine f.status.name := by cases f.status <;> decide
  have head : OneLine (f.status.name ++ ": [" ++ f.ruleId ++ "] ") ↔ OneLine f.ruleId := by
    simp [OneLine, status]
  rw [compactEntry_eq, Text.oneLine_append, head, Text.oneLine_append, oneLine_idsOf]

/-- The compact style has at least as many lines as there are findings. It has just as many if and
only if every finding is on one line, and then the lines are the entries of the findings. -/
theorem exists_lines_asCompact (r : Report) :
    ∃ lines, Lines r.asCompact lines ∧ r.findings.length ≤ lines.length ∧
      (lines.length = r.findings.length ↔ ∀ f ∈ r.findings,
        OneLine f.ruleId ∧ OneLine f.message ∧ ∀ a ∈ f.affected, OneLine a.id) ∧
      (lines.length = r.findings.length → List.Forall₂ Heads r.findings lines) := by
  obtain ⟨lines, has, enough, whole_iff, same⟩ := Text.exists_lines (r.findings.map compactEntry)
  rw [List.map_map] at has
  rw [List.length_map] at enough whole_iff same
  refine ⟨lines, has, enough, ?_, fun equal => ?_⟩
  · rw [whole_iff, List.forall_mem_map]
    exact forall₂_congr fun f _ => oneLine_compactEntry f
  · rw [same equal, List.forall₂_map_right_iff, List.forall₂_same]
    exact fun f _ => ⟨_, compactEntry_eq f⟩

variable {rules : List Rule}

/-- The findings of rules whose reasons are those that there are, by the texts of the rules. -/
theorem oneLine_findings_iff (justified : ∀ rule ∈ rules, rule.condition.Justified) (d : Document)
    (t : Thresholds) (nodes : List Node) :
    (∀ f ∈ (ofRules d t nodes rules).findings,
      OneLine f.ruleId ∧ OneLine f.message ∧ ∀ a ∈ f.affected, OneLine a.id) ↔
    (∀ rule ∈ rules, OneLine rule.id ∧ ∀ text ∈ rule.quoted, OneLine text) ∧
      ∀ f ∈ (ofRules d t nodes rules).findings, ∀ a ∈ f.affected, OneLine a.id := by
  let s : Scan := ⟨nodes, d.host, t⟩
  have listed (f : Finding) : f ∈ (ofRules d t nodes rules).findings ↔ f ∈ rules.map (·.finding s) :=
    (lists_ofFindings _ _).findings_perm.mem_iff
  have told {rule : Rule} (member : rule ∈ rules) :
      OneLine (rule.finding s).ruleId ∧ OneLine (rule.finding s).message ↔
        OneLine rule.id ∧ ∀ text ∈ rule.quoted, OneLine text := by
    rw [(rule.finding_wellFormed s).ruleId, Rule.oneLine_message (justified rule member)]
  constructor
  · intro all
    refine ⟨fun rule member => ?_, fun f member => (all f member).2.2⟩
    obtain ⟨id, message, -⟩ := all _ ((listed _).mpr (List.mem_map_of_mem member))
    exact (told member).mp ⟨id, message⟩
  · rintro ⟨texts, ids⟩ f member
    obtain ⟨rule, inside, rfl⟩ := List.mem_map.mp ((listed f).mp member)
    obtain ⟨id, message⟩ := (told inside).mpr (texts rule inside)
    exact ⟨id, message, ids _ member⟩

end Report

namespace Command.CheckRequest

variable {t : FileTree} {source : ConfigSource} {r : CheckRequest} {c : Config} {report : Report}
  {rules : List Rule} {origin : RuleSource}

theorem Supplies.justified (ruled : Supplies t origin rules) :
    ∀ rule ∈ rules, rule.condition.Justified := by
  cases ruled with
  | file found read =>
    intro rule member
    obtain ⟨ms, -, -, given⟩ := (RuleSet.loaded_of_ofText read rule member).given
    rw [given]
    exact Condition.justified_read _ _
  | preset preset =>
    have usable : ∀ rule ∈ preset.rules, ∃ requirement, rule.condition = .valid requirement := by
      cases preset <;> simp [Preset.rules, Preset.recommendedRules, Preset.basicRules]
    intro rule member type reason raw invalid
    obtain ⟨requirement, valid⟩ := usable rule member
    rw [valid] at invalid
    cases invalid

/-- Neither a request nor a configuration changes the condition of a rule. -/
theorem exists_condition_eq {rule : Rule} (member : rule ∈ c.apply (r.keep rules)) :
    ∃ given ∈ rules, rule.condition = given.condition := by
  obtain ⟨given, kept, rfl⟩ := List.mem_map.mp member
  refine ⟨given, ?_, by rw [c.adjust_eq]⟩
  have kept' : given ∈ r.keep rules := List.mem_of_mem_filter kept
  rw [keep] at kept'
  split at kept'
  · exact kept'
  · exact List.mem_of_mem_filter kept'

/-- The compact style has a line for each finding, in the order of the findings, if and only if no
line ends within the id of a rule, within a text that a message repeats from its rule, or within the
id of an element that is named. Otherwise there are more lines than findings. -/
theorem scan_compact_lines (done : r.scan t source = .ok (c, report))
    (ruled : Supplies t (r.ruleSource t source c) rules) :
    ∃ lines, Lines (report.render .compact) lines ∧ report.findings.length ≤ lines.length ∧
      (lines.length = report.findings.length ↔
        (∀ rule ∈ c.apply (r.keep rules), OneLine rule.id ∧ ∀ text ∈ rule.quoted, OneLine text) ∧
          ∀ f ∈ report.findings, ∀ a ∈ f.affected, OneLine a.id) ∧
      (lines.length = report.findings.length → List.Forall₂ Report.Heads report.findings lines) := by
  obtain ⟨given, d, -, supplied, -, -, rfl⟩ := scan_eq_ok.mp done
  have same : given = rules :=
    Except.ok.inj ((rules_eq_ok.mpr supplied).symm.trans (rules_eq_ok.mpr ruled))
  subst same
  have justified : ∀ rule ∈ c.apply (r.keep given), rule.condition.Justified := by
    intro rule member
    obtain ⟨given', inside, same⟩ := exists_condition_eq member
    rw [same]
    exact supplied.justified given' inside
  obtain ⟨lines, has, enough, whole_iff, heads⟩ := Report.exists_lines_asCompact
    (.ofRules d c.thresholds (d.collect d.selection) (c.apply (r.keep given)))
  rw [Report.oneLine_findings_iff justified] at whole_iff
  exact ⟨lines, has, enough, whole_iff, heads⟩

/-- A document with one text, and a rule set with one rule: a phrase has to be there, and a line ends
in it. -/
def saveFiles : FileTree where
  entries := [
    (["screen.json"], .text ("\x7b\"nodes\": [\x7b\"id\": \"save\", \"type\": \"TEXT\", "
      ++ "\"characters\": \"Save\"\x7d]\x7d")),
    (["both.json"], .text ("[\x7b\"id\": \"both\", \"description\": \"Say both\", "
      ++ "\"type\": \"required-text\", \"condition\": \x7b\"text\": \"Save\\nnow\"\x7d\x7d]"))]
  current := []

def saveRequest : CheckRequest where
  document := ⟨.bare, ["screen.json"]⟩
  rules := some ⟨.bare, ["both.json"]⟩
  style := .compact

def saveDocument : Document :=
  (saveRequest.load saveFiles).toOption.getD .empty

def saveRules : List Rule :=
  (rulesFrom saveFiles ⟨.bare, ["both.json"]⟩).toOption.getD []

private theorem eq_ok_getD {ε α : Type} {outcome : Except ε α} (fine : outcome.toOption.isSome = true)
    (usual : α) : outcome = .ok (outcome.toOption.getD usual) := by
  cases outcome with
  | ok a => rfl
  | error e => cases fine

private theorem save_supplies :
    Supplies saveFiles (saveRequest.ruleSource saveFiles .none {}) saveRules :=
  rules_eq_ok.mp (eq_ok_getD (by decide +kernel) [])

private theorem save_scan : saveRequest.scan saveFiles .none =
    .ok ({}, .ofRules saveDocument {} saveDocument.nodes saveRules) := by
  have held : Holds saveFiles saveRequest.document saveDocument :=
    load_eq_ok.mp (eq_ok_getD (by decide +kernel) Document.empty)
  have ⟨text, _, read⟩ := held
  obtain ⟨snapshot, -, made⟩ := Document.ofText_eq_ok.mp read
  have sound := Document.Sound.of_ofSnapshot made
  have all : saveDocument.selection = saveDocument.roots := by decide +kernel
  have selected : saveDocument.selection ≠ [] := by decide +kernel
  have kept : Config.apply {} (saveRequest.keep saveRules) = saveRules := by
    rw [keep, Config.apply_eq_map (fun _ _ => rfl)]
    exact List.map_id saveRules
  refine scan_eq_ok.mpr ⟨saveRules, saveDocument, .usual rfl, save_supplies, held, selected, ?_⟩
  rw [kept, all, sound.collect_roots]

/-- One finding takes two lines, since a line ends in the phrase that its message repeats. -/
theorem scan_compact_lines_save : ∃ report lines,
    saveRequest.scan saveFiles .none = .ok ({}, report) ∧
      Lines (report.render .compact) lines ∧ report.findings.length < lines.length := by
  obtain ⟨lines, has, enough, exact_iff, -⟩ := scan_compact_lines save_scan save_supplies
  have broken : ¬ ∀ rule ∈ Config.apply {} (saveRequest.keep saveRules),
      OneLine rule.id ∧ ∀ text ∈ rule.quoted, OneLine text := by
    decide +kernel
  exact ⟨_, lines, save_scan, has,
    Nat.lt_of_le_of_ne enough fun equal => broken (exact_iff.mp equal.symm).1⟩

theorem compact_breaks : ∃ report, saveRequest.scan saveFiles .none = .ok ({}, report) ∧
    report.findings.length = 1 ∧ Lines (report.render .compact)
      ["error: [both] Required text \"Save", "now\" not found (save)"] :=
  ⟨_, save_scan, by decide +kernel, by decide +kernel, by decide +kernel⟩

end Command.CheckRequest

end CanvasLint
