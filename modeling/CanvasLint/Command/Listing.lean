import CanvasLint.Rule.Preset
import CanvasLint.Rule.RuleType

/-!
The list of the rule types and the presets, as a table for users.
-/
namespace CanvasLint.Command.Listing

/-- The text with blanks after it, up to a width. -/
def padded (width : Nat) (s : String) : String :=
  s ++ String.ofList (List.replicate (width - s.length) ' ')

/-- The width of the first column. -/
def typeWidth : Nat := 20

def header : List String :=
  ["Available rule types:",
    "",
    padded typeWidth "Type" ++ " " ++ padded 9 "Severity" ++ " Description",
    String.ofList (List.replicate 80 '-')]

/-- The line of a rule type; severities are not aligned. -/
def row (t : RuleType) : String :=
  padded typeWidth t.name ++ s!" {t.defaultSeverity.name} {t.summary}"
    ++ if t.verified then "" else " (not verified)"

/-- The line of a preset with the ids of its rules. -/
def presetRow (p : Preset) : String :=
  "  " ++ padded 12 p.name ++ " - " ++ ", ".intercalate (p.rules.map (·.id))

def footer : List String :=
  ["",
    "Use --rules to scan with a JSON rule set, or --only to filter, e.g.:",
    "  spec-lint check screen.json --rules rules.json",
    "  spec-lint check screen.json --preset basic --only min-font-size,image-alt"]

def lines : List String :=
  header ++ RuleType.all.map row ++ ["", "Presets:"] ++ Preset.all.map presetRow ++ footer

/-- Every line with the end of the line. -/
def text : String :=
  String.join (lines.map (· ++ "\n"))

end CanvasLint.Command.Listing
