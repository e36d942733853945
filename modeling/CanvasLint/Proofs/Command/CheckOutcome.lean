import CanvasLint.Proofs.Command.Lines
import CanvasLint.Proofs.Outcome
import CanvasLint.Proofs.Report.Accounting

/-! How a scan ends. It fails for the first of the reasons there are, in the order in which it needs
things: its configuration, its rules, its document and a selection. If nothing is missing there is a
report, and it depends on the report alone whether something was found that counts. -/
namespace CanvasLint

open Canvas (Document)
open Outcome (bind_eq_ok bind_eq_error)

namespace Command

namespace CheckRequest

variable {t : FileTree} {source : ConfigSource} {r : CheckRequest} {config : Config} {d : Document}
  {rules : List Rule} {origin : RuleSource} {failure : Failure} {report : Report}

/-! ### What a scan needs -/

/-- The configuration that a source gives: the usual one, or what the text of its file says. -/
inductive Configures (t : FileTree) (source : ConfigSource) : Config → Prop
  | usual (nowhere : source.file? = none) : Configures t source {}
  | file {file : Path} {text : String} {config : Config} (named : source.file? = some file)
      (found : t.read? file = some text) (read : Config.ofText text = .ok config) :
      Configures t source config

/-- The rules that a source of rules gives. -/
inductive Supplies (t : FileTree) : RuleSource → List Rule → Prop
  | file {path : Path} {text : String} {rules : List Rule} (found : t.read? path = some text)
      (read : RuleSet.ofText path.text text = .ok rules) : Supplies t (.file path) rules
  | preset (preset : Preset) : Supplies t (.preset preset.name) preset.rules

/-- Why a source of rules gives none: its file is missing, cannot be read or is refused, or no preset
has its name. -/
inductive Refuses (t : FileTree) : RuleSource → Failure → Prop
  | missing {path : Path} (missing : t.read? path = none) :
      Refuses t (.file path) (.ruleSetNotRead path)
  | refused {path : Path} {text : String} {error : RuleSetError} (found : t.read? path = some text)
      (refused : RuleSet.ofText path.text text = .error error) :
      Refuses t (.file path) (.ruleSetRefused error)
  | unknown {name : String} (unknown : ∀ p, Preset.name p ≠ name) :
      Refuses t (.preset name) (.unknownPreset name)

/-- The document at a path. -/
def Holds (t : FileTree) (path : Path) (d : Document) : Prop :=
  ∃ text, t.read? path = some text ∧ Document.ofText text = .ok d

/-- Why a scan fails. Each reason counts only where all that is needed before is there. What is
wrong with the thresholds of a configuration is found when it is read. -/
inductive Fails (r : CheckRequest) (t : FileTree) (source : ConfigSource) : Failure → Prop
  | configMissing {file : Path} (named : source.file? = some file) (missing : t.read? file = none) :
      Fails r t source (.configNotLoaded file)
  | configRefused {file : Path} {text : String} {error : ConfigError}
      (named : source.file? = some file) (found : t.read? file = some text)
      (refused : Config.ofText text = .error error) : Fails r t source (.configNotLoaded file)
  | rulesRefused {config : Config} {failure : Failure} (configured : Configures t source config)
      (refuses : Refuses t (r.ruleSource t source config) failure) : Fails r t source failure
  | documentMissing {config : Config} {rules : List Rule} (configured : Configures t source config)
      (ruled : Supplies t (r.ruleSource t source config) rules)
      (missing : t.read? r.document = none) : Fails r t source (.documentNotRead r.document)
  | documentRefused {config : Config} {rules : List Rule} {text : String}
      {error : Canvas.DocumentError} (configured : Configures t source config)
      (ruled : Supplies t (r.ruleSource t source config) rules)
      (found : t.read? r.document = some text) (refused : Document.ofText text = .error error) :
      Fails r t source (.documentNotLoaded r.document error)
  | nothingSelected {config : Config} {rules : List Rule} {d : Document}
      (configured : Configures t source config)
      (ruled : Supplies t (r.ruleSource t source config) rules) (held : Holds t r.document d)
      (nothing : d.selection = []) : Fails r t source (.scanFailed .emptySelection)

/-- The scan has this report under this configuration. -/
def Reports (r : CheckRequest) (t : FileTree) (source : ConfigSource) (config : Config)
    (report : Report) : Prop :=
  ∃ rules d, Configures t source config ∧ Supplies t (r.ruleSource t source config) rules ∧
    Holds t r.document d ∧ d.selection ≠ [] ∧ report = .ofRules d config.thresholds
      (d.collect d.selection) (config.apply (r.keep rules))

/-! ### The stages of a scan -/

theorem configFrom_eq_ok : configFrom t source = .ok config ↔ Configures t source config := by
  unfold configFrom
  constructor
  · intro made
    split at made
    · rename_i nowhere
      cases made
      exact .usual nowhere
    · rename_i file named
      split at made
      · rename_i config' read
        cases made
        obtain ⟨text, found, read⟩ := Option.map_eq_some_iff.mp read
        exact .file named found read
      · cases made
      · cases made
  · intro configured
    cases configured with
    | usual nowhere => rw [nowhere]
    | file named found read => simp [named, found, read]

theorem configFrom_eq_error : configFrom t source = .error failure ↔
    ∃ file, source.file? = some file ∧ failure = .configNotLoaded file ∧
      (t.read? file = none ∨
        ∃ text error, t.read? file = some text ∧ Config.ofText text = .error error) := by
  unfold configFrom
  cases named : source.file? with
  | none => simp
  | some file =>
    cases found : t.read? file with
    | none => simp [eq_comm, found]
    | some text => cases read : Config.ofText text <;> simp [eq_comm, found, read]

theorem firstInvalid?_of_ofText {text : String} (read : Config.ofText text = .ok config) :
    config.thresholds.firstInvalid? = none := by
  unfold Config.ofText at read
  split at read
  · cases read
  · split at read
    · cases read
    · split at read
      · cases read
      · rename_i sound
        cases read
        exact sound

/-- A configuration that was read has thresholds that make sense, and so has the usual one. -/
theorem Configures.firstInvalid? (configured : Configures t source config) :
    config.thresholds.firstInvalid? = none := by
  cases configured with
  | usual nowhere => decide +kernel
  | file named found read => exact firstInvalid?_of_ofText read

theorem rules_eq_ok : origin.rules t = .ok rules ↔ Supplies t origin rules := by
  constructor
  · intro made
    cases origin with
    | file path =>
      rw [RuleSource.rules, rulesFrom] at made
      split at made
      · cases made
      · rename_i text found
        split at made
        · rename_i rules' read
          cases made
          exact .file found read
        · cases made
    | preset name =>
      rw [RuleSource.rules, presetRules] at made
      split at made
      · rename_i preset known
        cases made
        have named := List.find?_some known
        rw [← beq_iff_eq.mp named]
        exact .preset preset
      · cases made
  · intro supplied
    cases supplied with
    | file found read => simp [RuleSource.rules, rulesFrom, found, read]
    | preset preset => cases preset <;> rfl

theorem unknown_preset_iff {name : String} :
    Preset.ofName? name = none ↔ ∀ p, Preset.name p ≠ name := by
  rw [Preset.ofName?, List.find?_eq_none]
  constructor
  · intro absent p
    cases p <;> simpa using absent _ (by simp [Preset.all])
  · intro absent p _
    simpa using absent p

theorem rules_eq_error : origin.rules t = .error failure ↔ Refuses t origin failure := by
  constructor
  · intro failed
    cases origin with
    | file path =>
      rw [RuleSource.rules, rulesFrom] at failed
      split at failed
      · rename_i missing
        cases failed
        exact .missing missing
      · rename_i text found
        split at failed
        · cases failed
        · rename_i error refused
          cases failed
          exact .refused found refused
    | preset name =>
      rw [RuleSource.rules, presetRules] at failed
      split at failed
      · cases failed
      · rename_i unknown
        cases failed
        exact .unknown (unknown_preset_iff.mp unknown)
  · intro refuses
    cases refuses with
    | missing missing => simp [RuleSource.rules, rulesFrom, missing]
    | refused found refused => simp [RuleSource.rules, rulesFrom, found, refused]
    | unknown unknown =>
      rw [RuleSource.rules, presetRules, unknown_preset_iff.mpr unknown]

theorem load_eq_ok : r.load t = .ok d ↔ Holds t r.document d := by
  unfold load Holds
  cases found : t.read? r.document with
  | none => simp
  | some text => cases read : Document.ofText text <;> simp [read]

theorem load_eq_error : r.load t = .error failure ↔
    (t.read? r.document = none ∧ failure = .documentNotRead r.document) ∨
    ∃ text error, t.read? r.document = some text ∧ Document.ofText text = .error error ∧
      failure = .documentNotLoaded r.document error := by
  unfold load
  cases found : t.read? r.document with
  | none => simp [eq_comm]
  | some text => cases read : Document.ofText text <;> simp [eq_comm, read]

theorem judge_eq (sound : config.thresholds.firstInvalid? = none) : judge d config rules =
    if d.selection = [] then .error (.scanFailed .emptySelection)
    else .ok (.ofRules d config.thresholds (d.collect d.selection) rules) := by
  rw [judge, sound]
  by_cases nothing : d.selection = [] <;> simp [Report.ofSelection, nothing]

/-! ### The whole scan -/

theorem scan_eq_ok : r.scan t source = .ok (config, report) ↔
    Reports r t source config report := by
  constructor
  · intro done
    simp only [scan, judged, select, bind_eq_ok, configFrom_eq_ok, rules_eq_ok, load_eq_ok] at done
    obtain ⟨config', configured, kept, ⟨rules, ruled, same⟩, d, held, report', judged, same'⟩ :=
      done
    cases same
    cases same'
    rw [judge_eq configured.firstInvalid?] at judged
    split at judged
    · cases judged
    · rename_i selected
      cases judged
      exact ⟨rules, d, configured, ruled, held, selected, rfl⟩
  · rintro ⟨rules, d, configured, ruled, held, selected, rfl⟩
    simp only [scan, judged, select, bind_eq_ok, configFrom_eq_ok, rules_eq_ok, load_eq_ok]
    refine ⟨config, configured, _, ⟨rules, ruled, rfl⟩, d, held, _, ?_, rfl⟩
    rw [judge_eq configured.firstInvalid?, if_neg selected]

/-- A scan goes on to its rules when it has its configuration. -/
private theorem scan_eq_error_of_rules (configured : Configures t source config)
    (failed : (r.ruleSource t source config).rules t = .error failure) :
    r.scan t source = .error failure :=
  bind_eq_error.mpr (.inr ⟨config, configFrom_eq_ok.mpr configured,
    bind_eq_error.mpr (.inl (bind_eq_error.mpr (.inl failed)))⟩)

/-- It goes on to its document when it has its rules. -/
private theorem scan_eq_error_of_rest (configured : Configures t source config)
    (ruled : Supplies t (r.ruleSource t source config) rules)
    (failed : (do judge (← r.load t) config (config.apply (r.keep rules))) = .error failure) :
    r.scan t source = .error failure := by
  have kept : r.judged t source config = .ok (config.apply (r.keep rules)) :=
    bind_eq_ok.mpr ⟨rules, rules_eq_ok.mpr ruled, rfl⟩
  refine bind_eq_error.mpr (.inr ⟨config, configFrom_eq_ok.mpr configured, ?_⟩)
  refine bind_eq_error.mpr (.inr ⟨_, kept, ?_⟩)
  rcases bind_eq_error.mp failed with unread | ⟨d, loaded, unjudged⟩
  · exact bind_eq_error.mpr (.inl unread)
  · exact bind_eq_error.mpr (.inr ⟨d, loaded, bind_eq_error.mpr (.inl unjudged)⟩)

private theorem fails_of_rest (configured : Configures t source config)
    (ruled : Supplies t (r.ruleSource t source config) rules) (kept : List Rule)
    (failed : (do judge (← r.load t) config kept) = .error failure) : Fails r t source failure := by
  rcases bind_eq_error.mp failed with unread | ⟨d, held, unjudged⟩
  · rcases load_eq_error.mp unread with ⟨missing, rfl⟩ | ⟨text, error, found, refused, rfl⟩
    · exact .documentMissing configured ruled missing
    · exact .documentRefused configured ruled found refused
  · rw [judge_eq configured.firstInvalid?] at unjudged
    split at unjudged
    · rename_i nothing
      cases unjudged
      exact .nothingSelected configured ruled (load_eq_ok.mp held) nothing
    · cases unjudged

theorem scan_eq_error : r.scan t source = .error failure ↔ Fails r t source failure := by
  constructor
  · intro failed
    rcases bind_eq_error.mp failed with unset | ⟨config, configured, failed⟩
    · obtain ⟨file, named, rfl, missing | ⟨text, error, found, refused⟩⟩ :=
        configFrom_eq_error.mp unset
      · exact .configMissing named missing
      · exact .configRefused named found refused
    have configured := configFrom_eq_ok.mp configured
    rcases bind_eq_error.mp failed with unruled | ⟨kept, ruled, failed⟩
    · rcases bind_eq_error.mp unruled with unruled | ⟨_, _, same⟩
      · exact .rulesRefused configured (rules_eq_error.mp unruled)
      · cases same
    obtain ⟨rules, ruled, -⟩ := bind_eq_ok.mp ruled
    apply fails_of_rest configured (rules_eq_ok.mp ruled) kept
    rcases bind_eq_error.mp failed with unread | ⟨d, held, failed⟩
    · exact bind_eq_error.mpr (.inl unread)
    · rcases bind_eq_error.mp failed with unjudged | ⟨_, _, same⟩
      · exact bind_eq_error.mpr (.inr ⟨d, held, unjudged⟩)
      · cases same
  · intro fails
    cases fails with
    | configMissing named missing =>
      exact bind_eq_error.mpr (.inl (configFrom_eq_error.mpr ⟨_, named, rfl, .inl missing⟩))
    | configRefused named found refused =>
      exact bind_eq_error.mpr
        (.inl (configFrom_eq_error.mpr ⟨_, named, rfl, .inr ⟨_, _, found, refused⟩⟩))
    | rulesRefused configured refuses =>
      exact scan_eq_error_of_rules configured (rules_eq_error.mpr refuses)
    | documentMissing configured ruled missing =>
      refine scan_eq_error_of_rest configured ruled (bind_eq_error.mpr (.inl ?_))
      exact load_eq_error.mpr (.inl ⟨missing, rfl⟩)
    | documentRefused configured ruled found refused =>
      refine scan_eq_error_of_rest configured ruled (bind_eq_error.mpr (.inl ?_))
      exact load_eq_error.mpr (.inr ⟨_, _, found, refused, rfl⟩)
    | @nothingSelected config rules d configured ruled held nothing =>
      refine scan_eq_error_of_rest configured ruled
        (bind_eq_error.mpr (.inr ⟨d, load_eq_ok.mpr held, ?_⟩))
      rw [judge_eq configured.firstInvalid?, if_pos nothing]

theorem Fails.unique {failure' : Failure} (fails : Fails r t source failure)
    (fails' : Fails r t source failure') : failure' = failure := by
  rw [← scan_eq_error] at fails fails'
  exact Except.error.inj (fails'.symm.trans fails)

theorem Reports.unique {config' : Config} {report' : Report}
    (reports : Reports r t source config report) (reports' : Reports r t source config' report') :
    config' = config ∧ report' = report := by
  rw [← scan_eq_ok] at reports reports'
  exact Prod.mk.inj (Except.ok.inj (reports'.symm.trans reports))

/-- A scan that fails has no report. -/
theorem Fails.not_reports (fails : Fails r t source failure) :
    ¬ Reports r t source config report := by
  rw [← scan_eq_error] at fails
  rw [← scan_eq_ok, fails]
  exact nofun

/-- What is asked about the style of the report does not matter before there is one. -/
theorem scan_style (r : CheckRequest) (style : Report.Style) (t : FileTree)
    (source : ConfigSource) : { r with style }.scan t source = r.scan t source := rfl

/-! ### The steps -/

variable {asked personal : Option Path} {w : World}

/-- A scan that fails has not printed or written anything by then. -/
theorem run_of_error
    (failed : r.scan w.files (.ofDocument w.files r.document asked personal) =
      .error failure) : (r.run asked personal).run w = (.error failure, w) := by
  change (Step.attempt (r.scan w.files _) >>= _ : Step Bool).run w = _
  rw [failed]
  rfl

/-- A scan that has a report prints it, and writes nothing. -/
theorem run_of_ok
    (done : r.scan w.files (.ofDocument w.files r.document asked personal) =
      .ok (config, report)) : (r.run asked personal).run w =
        (.ok (report.hasFindingsAt config.failSeverity),
          { w with output := w.output ++ report.render r.style }) := by
  change (Step.attempt (r.scan w.files _) >>= _ : Step Bool).run w = _
  rw [done]
  rfl

end CheckRequest

/-! ### The outcome -/

open CheckRequest (Fails Reports)

variable {place : Place} {words : List String} {i : Invocation} {r : CheckRequest}

private theorem run_eq (accepted : Invocation.ofWords words = .ok i)
    (asked : i.request = .check r) : run place words =
      .ofSteps (r.run i.config place.personal) { files := place.files } := by
  rw [run, accepted]
  dsimp only
  rw [Invocation.run, asked]

private theorem outcome_of_error {asked : Option Path} {failure : Failure}
    (failed : r.scan place.files (.ofDocument place.files r.document asked place.personal) =
      .error failure) : Outcome.ofSteps (r.run asked place.personal) { files := place.files } =
        ⟨.failed failure, { files := place.files }⟩ := by
  let w : World := { files := place.files }
  rw [Outcome.ofSteps, CheckRequest.run_of_error (w := w) failed]

private theorem outcome_of_ok {asked : Option Path} {config : Config} {report : Report}
    (done : r.scan place.files (.ofDocument place.files r.document asked place.personal) =
      .ok (config, report)) :
    Outcome.ofSteps (r.run asked place.personal) { files := place.files } =
      ⟨.done (report.hasFindingsAt config.failSeverity),
        { files := place.files, output := report.render r.style }⟩ := by
  let w : World := { files := place.files }
  rw [Outcome.ofSteps, CheckRequest.run_of_ok (w := w) done]
  dsimp only
  rw [String.empty_append]

/-- A report has findings of some severity if one of its findings reaches it. -/
private theorem hasFindingsAt_iff {t : FileTree} {source : ConfigSource} {config : Config}
    {report : Report} (reports : Reports r t source config report) (severity : Severity) :
    report.hasFindingsAt severity = true ↔ ∃ f ∈ report.findings, f.status.Reaches severity := by
  obtain ⟨rules, d, -, -, -, -, rfl⟩ := reports
  have lists := Report.lists_ofFindings ((config.apply (r.keep rules)).map
    (·.finding ⟨d.collect d.selection, d.host, config.thresholds⟩))
    (d.collect d.selection).length
  rw [Report.ofRules, lists.hasFindingsAt_iff]
  simp only [lists.findings_perm.mem_iff]

/-- How a scan ends that leaves the files as they are: by a failure before anything is printed, or
with its report. -/
private inductive Ends (r : CheckRequest) (t : FileTree) (source : ConfigSource) : Outcome → Prop
  | failed {failure : Failure} (fails : Fails r t source failure) :
      Ends r t source ⟨.failed failure, { files := t }⟩
  | done {config : Config} {report : Report} (reports : Reports r t source config report) :
      Ends r t source ⟨.done (report.hasFindingsAt config.failSeverity),
        { files := t, output := report.render r.style }⟩

private theorem ends_run (r : CheckRequest) (asked : Option Path) (place : Place) :
    Ends r place.files (.ofDocument place.files r.document asked place.personal)
      (.ofSteps (r.run asked place.personal) { files := place.files }) := by
  cases scanned : r.scan place.files (.ofDocument place.files r.document asked place.personal) with
  | error failure =>
    rw [outcome_of_error scanned]
    exact .failed (CheckRequest.scan_eq_error.mp scanned)
  | ok result =>
    obtain ⟨config, report⟩ := result
    rw [outcome_of_ok scanned]
    exact .done (CheckRequest.scan_eq_ok.mp scanned)

namespace Ends

variable {t : FileTree} {source : ConfigSource} {outcome : Outcome}

private theorem exit_eq_one_iff (ends : Ends r t source outcome) :
    outcome.exit = 1 ↔ (∃ failure, Fails r t source failure) ∨
      ∃ config report, Reports r t source config report ∧
        ∃ f ∈ report.findings, f.status.Reaches config.failSeverity := by
  cases ends with
  | failed fails => exact ⟨fun _ => .inl ⟨_, fails⟩, fun _ => rfl⟩
  | @done config report reports =>
    have exit_iff : (if report.hasFindingsAt config.failSeverity then 1 else 0) = 1 ↔
        ∃ f ∈ report.findings, f.status.Reaches config.failSeverity := by
      rw [← hasFindingsAt_iff reports]
      simp
    refine exit_iff.trans ⟨fun found => .inr ⟨config, report, reports, found⟩, ?_⟩
    rintro (⟨failure, fails⟩ | ⟨config', report', reports', found⟩)
    · exact absurd reports fails.not_reports
    · obtain ⟨rfl, rfl⟩ := reports.unique reports'
      exact found

private theorem exit_eq_zero (ends : Ends r t source outcome) (other : outcome.exit ≠ 1) :
    outcome.exit = 0 := by
  cases ends with
  | failed fails => exact absurd rfl other
  | done reports => exact if_neg fun found => other (if_pos found)

private theorem failure?_eq_some_iff (ends : Ends r t source outcome) {failure : Failure} :
    outcome.failure? = some failure ↔ Fails r t source failure := by
  cases ends with
  | failed fails =>
    constructor
    · intro same
      cases same
      exact fails
    · intro fails'
      exact congrArg some (fails'.unique fails)
  | done reports => exact iff_of_false nofun fun fails => fails.not_reports reports

private theorem output_of_failure (ends : Ends r t source outcome) {failure : Failure}
    (failed : outcome.failure? = some failure) : outcome.output = "" := by
  cases ends with
  | failed fails => rfl
  | done reports => exact absurd failed nofun

private theorem output_of_reports (ends : Ends r t source outcome) {config : Config}
    {report : Report} (reports : Reports r t source config report) :
    outcome.output = report.render r.style := by
  cases ends with
  | failed fails => exact absurd reports fails.not_reports
  | done reports' =>
    obtain ⟨rfl, rfl⟩ := reports'.unique reports
    rfl

private theorem untouched (ends : Ends r t source outcome) :
    outcome.written = [] ∧ outcome.world.files = t := by
  cases ends <;> exact ⟨rfl, rfl⟩

end Ends

/-! ### Other styles -/

/-- The two outcomes differ in what was printed only. -/
def Outcome.SameEnd (outcome outcome' : Outcome) : Prop :=
  outcome'.exit = outcome.exit ∧ outcome'.failure? = outcome.failure?

private theorem sameEnd_style (r : CheckRequest) (style : Report.Style) (asked : Option Path) :
    Outcome.SameEnd (.ofSteps (r.run asked place.personal) { files := place.files })
      (.ofSteps ({ r with style }.run asked place.personal) { files := place.files }) := by
  cases scanned : r.scan place.files
      (.ofDocument place.files r.document asked place.personal) with
  | error failure =>
    rw [outcome_of_error scanned, outcome_of_error ((r.scan_style style _ _).trans scanned)]
    exact ⟨rfl, rfl⟩
  | ok result =>
    rw [outcome_of_ok scanned, outcome_of_ok ((r.scan_style style _ _).trans scanned)]
    exact ⟨rfl, rfl⟩

private theorem sameEnd_restyled {i' : Invocation} (restyled : i.Restyled i') :
    Outcome.SameEnd (.ofSteps (i.run place.personal) { files := place.files })
      (.ofSteps (i'.run place.personal) { files := place.files }) := by
  obtain ⟨request, config, verbose⟩ := i
  obtain ⟨request', config', verbose'⟩ := i'
  obtain ⟨requested, same, -⟩ := restyled
  cases same
  cases requested with
  | same q => cases request <;> exact ⟨rfl, rfl⟩
  | check r style => exact sameEnd_style r style config

/-- Another word for the style does not change how a command ends, whether the command line makes
sense or not. -/
private theorem sameEnd_of_sameButStyle {words' : List String} (same : SameButStyle words words') :
    Outcome.SameEnd (run place words) (run place words') := by
  have agree := Invocation.ofWords_restyled same
  unfold run
  generalize Invocation.ofWords words = accepted, Invocation.ofWords words' = accepted' at agree
  cases agree with
  | ok restyled => exact sameEnd_restyled restyled
  | error misuse => exact ⟨rfl, rfl⟩

/-! ### How a scan ends -/

/-- A scan that is asked for ends with 1 if it fails or finds something that counts, and with 0
otherwise. If it fails it has printed nothing, otherwise it prints its report, and in no case are
the files touched. The style of the report makes no difference to how the scan ends, whether another
invocation asks for it or another word on the command line. -/
theorem run_check_ends (accepted : Invocation.ofWords words = .ok i)
    (asked : i.request = .check r) (place : Place) :
    let source := ConfigSource.ofDocument place.files r.document i.config place.personal
    let outcome := run place words
    (outcome.exit = 1 ↔ (∃ failure, Fails r place.files source failure) ∨
      ∃ config report, Reports r place.files source config report ∧
        ∃ f ∈ report.findings, f.status.Reaches config.failSeverity) ∧
    (outcome.exit ≠ 1 → outcome.exit = 0) ∧
    (∀ failure, outcome.failure? = some failure ↔ Fails r place.files source failure) ∧
    (∀ failure, outcome.failure? = some failure → outcome.output = "") ∧
    (∀ config report, Reports r place.files source config report →
      outcome.output = report.render r.style) ∧
    (outcome.written = [] ∧ outcome.world.files = place.files) ∧
    (∀ words', SameButStyle words words' → outcome.SameEnd (run place words')) ∧
    ∀ words' i' style, Invocation.ofWords words' = .ok i' →
      i'.request = .check { r with style } → i'.config = i.config →
      outcome.SameEnd (run place words') := by
  intro source outcome
  have same : outcome = .ofSteps (r.run i.config place.personal) { files := place.files } :=
    run_eq accepted asked
  have ends : Ends r place.files source outcome := same ▸ ends_run r i.config place
  refine ⟨ends.exit_eq_one_iff, ends.exit_eq_zero, fun _ => ends.failure?_eq_some_iff,
    fun _ => ends.output_of_failure, fun _ _ => ends.output_of_reports, ends.untouched,
    fun _ => sameEnd_of_sameButStyle, ?_⟩
  intro words' i' style accepted' asked' same'
  rw [run_eq accepted' asked', same', same]
  exact sameEnd_style r style i.config

/-- Where there are no files at all, a scan has its usual configuration and the recommended rules,
and then misses its document. A configuration that cannot be read is found all the same, and then it
is what fails. -/
theorem run_check_ends_missing :
    let nothing : FileTree := ⟨[], []⟩
    let unreadable : FileTree := ⟨[(["spec-lint.toml"], .file none)], []⟩
    let outcome (files : FileTree) := run { files } ["check", "screen.json", "-f", "json"]
    ((outcome nothing).exit = 1 ∧ (outcome nothing).output = "" ∧
      (outcome nothing).failure? = some (.documentNotRead ⟨.bare, ["screen.json"]⟩)) ∧
    (outcome unreadable).exit = 1 ∧ (outcome unreadable).output = "" ∧
      (outcome unreadable).failure? = some (.configNotLoaded ⟨.root, ["spec-lint.toml"]⟩) ∧
      (outcome unreadable).SameEnd
        (run { files := unreadable } ["check", "screen.json", "-f", "text"]) := by
  intro nothing unreadable outcome
  let r : CheckRequest := { document := ⟨.bare, ["screen.json"]⟩, style := .json }
  have accepted : Invocation.ofWords ["check", "screen.json", "-f", "json"] =
      .ok { request := .check r } := rfl
  have fails : Fails r nothing .none (.documentNotRead r.document) :=
    .documentMissing (.usual rfl) (.preset .recommended) (by decide +kernel)
  have source : ConfigSource.ofDocument nothing r.document none none = .none := by
    decide +kernel
  have fails' : Fails r unreadable (.project ⟨.root, ["spec-lint.toml"]⟩)
      (.configNotLoaded ⟨.root, ["spec-lint.toml"]⟩) :=
    .configMissing rfl (by decide +kernel)
  have source' : ConfigSource.ofDocument unreadable r.document none none =
      .project ⟨.root, ["spec-lint.toml"]⟩ := by
    decide +kernel
  obtain ⟨exit, -, failure, silent, -⟩ := run_check_ends accepted rfl { files := nothing }
  obtain ⟨exit', -, failure', silent', -, -, respelled, -⟩ :=
    run_check_ends accepted rfl { files := unreadable }
  rw [source] at exit failure
  rw [source'] at exit' failure'
  have failed := (failure _).mpr fails
  have failed' := (failure' _).mpr fails'
  refine ⟨⟨exit.mpr (.inl ⟨_, fails⟩), silent _ failed, failed⟩,
    exit'.mpr (.inl ⟨_, fails'⟩), silent' _ failed', failed', respelled _ ?_⟩
  let s : Switch := { name := "format", letter := some 'f', takesValue := true }
  let start : Line := { verb := some .check, operands := ["screen.json"], waiting := some s }
  have read : ["check", "screen.json", "-f"].foldlM Line.readWord {} = .ok start := rfl
  have given (style : Report.Style) : start.readWord style.name = start.use s style.name := by
    cases style <;> rfl
  exact .mk read (given .json) (given .text) rfl rfl

end Command

end CanvasLint
