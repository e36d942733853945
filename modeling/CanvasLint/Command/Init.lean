import CanvasLint.Command.Step

/-!
A first configuration, written into the current directory. One that is there already is replaced
only if this is asked for.
-/
namespace CanvasLint.Command.Init

/-- Where the configuration is written. -/
def file : Path := ⟨.bare, ["spec-lint.toml"]⟩

/-- The configuration with everything as usual, but for one rule that is not judged anyway. -/
def configLines : List String :=
  ["# spec-lint configuration",
    "",
    "# Built-in rule set used when no --rules file is given: \"recommended\" or \"basic\"",
    "preset = \"recommended\"",
    "",
    "# Lowest severity that makes `spec-lint check` exit with status 1",
    "fail_on = \"error\"",
    "",
    "[engine]",
    "# Size assumed for text with mixed font sizes",
    "mixed_font_size = 14.0",
    "# Minimum enforced by font-size rules that give no bounds",
    "default_min_font_size = 12.0",
    "# Text at or above this size counts as a heading",
    "heading_min_font_size = 18.0",
    "# Default layer name that does not count as an image description",
    "placeholder_image_name = \"Rectangle\"",
    "",
    "[engine.label_proximity]",
    "horizontal = 200.0",
    "vertical = 100.0",
    "",
    "[engine.alt_text_proximity]",
    "horizontal = 100.0",
    "vertical = 100.0",
    "",
    "# Rule configurations, keyed by rule id",
    "# Each rule can be enabled/disabled and have its severity overridden",
    "",
    "[rules.btn-alignment]",
    "enabled = false",
    "",
    "# [rules.duplicate-cta]",
    "# severity = \"error\""]

def config : String :=
  String.join (configLines.map (· ++ "\n"))

/-- What the user is told afterwards. -/
def advice : String :=
  "Created spec-lint.toml\n\nNext steps:\n  1. Edit spec-lint.toml to configure rules\n"
    ++ "  2. Run: spec-lint check <document.json>\n"

/-- Writes the configuration, unless something is in the way. -/
def run (force : Bool) : Step Unit := do
  if ((← Step.files).reached? file).isSome && !force then throw (.configExists file)
  Step.write file config
  Step.print advice

end CanvasLint.Command.Init
