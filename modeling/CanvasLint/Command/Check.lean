import CanvasLint.Command.Invocation
import CanvasLint.Command.Step
import CanvasLint.Config.Reader
import CanvasLint.Config.Source
import CanvasLint.Rule.Preset

/-!
Scans of a document in a file tree. The rules come from the first of these that there is: the rule
set that is asked for, the preset that is asked for, the rule set beside the configuration, the
preset of the configuration, and the recommended preset. Of these rules those are judged that the
request keeps and the configuration does not turn off.
-/
namespace CanvasLint.Command

open Canvas (Document)

namespace CheckRequest

/-- The configuration of a source. -/
def configFrom (t : FileTree) (source : ConfigSource) : Except Failure Config :=
  match source.file? with
  | none => .ok {}
  | some file =>
    match (t.read? file).map Config.ofText with
    | some (.ok config) => .ok config
    | some (.error _) | none => .error (.configNotLoaded file)

/-- The rules of the rule set in a file. -/
def rulesFrom (t : FileTree) (file : Path) : Except Failure (List Rule) :=
  match t.read? file with
  | none => .error (.ruleSetNotRead file)
  | some text =>
    match RuleSet.ofText file.text text with
    | .ok rules => .ok rules
    | .error error => .error (.ruleSetRefused error)

def presetRules (name : String) : Except Failure (List Rule) :=
  match Preset.ofName? name with
  | some preset => .ok preset.rules
  | none => .error (.unknownPreset name)

/-- Where the rules of a scan come from. -/
inductive RuleSource where
  | file (path : Path)
  | preset (name : String)
deriving DecidableEq, Repr

def RuleSource.rules (t : FileTree) : RuleSource → Except Failure (List Rule)
  | file path => rulesFrom t path
  | preset name => presetRules name

/-- The first source of rules that there is. -/
def ruleSource (r : CheckRequest) (t : FileTree) (source : ConfigSource) (config : Config) :
    RuleSource :=
  match r.rules, r.preset, source.ruleSet? t with
  | some path, _, _ => .file path
  | none, some name, _ => .preset name
  | none, none, some path => .file path
  | none, none, none => .preset (config.preset.getD Preset.recommended.name)

/-- The rules of that source. -/
def select (r : CheckRequest) (t : FileTree) (source : ConfigSource) (config : Config) :
    Except Failure (List Rule) :=
  (r.ruleSource t source config).rules t

/-- The ids between commas, without blanks around them. -/
def idsOf (list : String) : List String :=
  ((Text.split ',' list).map Text.trim).filter (!·.isEmpty)

/-- The rules that the request keeps. -/
def keep (r : CheckRequest) (rules : List Rule) : List Rule :=
  match r.only with
  | none => rules
  | some list => rules.filter fun rule => (idsOf list).contains rule.id

/-- The rules that are judged. -/
def judged (r : CheckRequest) (t : FileTree) (source : ConfigSource) (config : Config) :
    Except Failure (List Rule) := do
  return config.apply (r.keep (← r.select t source config))

/-- The document that is scanned. -/
def load (r : CheckRequest) (t : FileTree) : Except Failure Document :=
  match t.read? r.document with
  | none => .error (.documentNotRead r.document)
  | some text =>
    match Document.ofText text with
    | .ok d => .ok d
    | .error error => .error (.documentNotLoaded r.document error)

/-- The selection of a document judged by rules. -/
def judge (d : Document) (config : Config) (rules : List Rule) : Except Failure Report :=
  match config.thresholds.firstInvalid? with
  | some error => .error (.unusableThreshold error)
  | none =>
    match Report.ofSelection d config.thresholds rules with
    | .ok report => .ok report
    | .error error => .error (.scanFailed error)

/-- The configuration of the scan and its report. -/
def scan (r : CheckRequest) (t : FileTree) (source : ConfigSource) :
    Except Failure (Config × Report) := do
  let config ← configFrom t source
  let rules ← r.judged t source config
  let report ← judge (← r.load t) config rules
  return (config, report)

/-- Prints the report of the scan, and tells whether it has findings that count. -/
def run (r : CheckRequest) (asked personal : Option Path) : Step Bool := do
  let t ← Step.files
  let (config, report) ← Step.attempt (r.scan t (.ofDocument t r.document asked personal))
  Step.print (report.render r.style)
  return report.hasFindingsAt config.failSeverity

end CheckRequest

end CanvasLint.Command
