import CanvasLint.Rule.Condition
import CanvasLint.Thresholds

/-!
Configurations: which rules to use, from which severity on a scan fails, the thresholds, and what to
change about single rules. Applying a configuration to rules drops those that it turns off and gives
those it names a severity; the order of the rules stays.
-/
namespace CanvasLint

/-- What to change about a rule. -/
structure Override where
  enabled : Option Bool := none
  severity : Option Severity := none

structure Config where
  preset : Option String := none
  failOn : Option Severity := none
  thresholds : Thresholds := {}
  /-- The changes by the id of the rule; no id occurs twice. -/
  overrides : List (String × Override) := []

namespace Config

def override? (c : Config) (ruleId : String) : Option Override :=
  c.overrides.lookup ruleId

/-- Rules are on unless they are turned off. -/
def isEnabled (c : Config) (ruleId : String) : Bool :=
  match c.override? ruleId with
  | some change => change.enabled.getD true
  | none => true

def severityOf (c : Config) (ruleId : String) : Option Severity :=
  c.override? ruleId >>= Override.severity

/-- The least severity at which a scan fails. -/
def failSeverity (c : Config) : Severity :=
  c.failOn.getD .error

/-- The rule with the severity that the configuration gives it, if it gives one. -/
def adjust (c : Config) (rule : Rule) : Rule :=
  match c.severityOf rule.id with
  | some severity => { rule with severity := some severity }
  | none => rule

def apply (c : Config) (rules : List Rule) : List Rule :=
  (rules.filter fun rule => c.isEnabled rule.id).map c.adjust

end Config

end CanvasLint
