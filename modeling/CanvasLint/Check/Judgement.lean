import CanvasLint.Check.Component
import CanvasLint.Check.Description
import CanvasLint.Check.Tint
import CanvasLint.Check.Typography
import CanvasLint.Check.Unjudged
import CanvasLint.Check.Wording

/-!
From a rule to its finding. Every rule yields exactly one finding. A rule that cannot be judged,
since nobody knows its type or its condition makes no sense, yields an error whatever its severity;
any other failure has the severity of the rule or else the one that the check gives it.
-/
namespace CanvasLint

def Requirement.judge (r : Requirement) (s : Scan) : Verdict :=
  match r with
  | .requiredText r => r.judge s
  | .fontSize r => r.judge s
  | .colorContrast r => r.judge s
  | .requiredComponent r => r.judge s
  | .componentPresence r => r.judge s
  | .elementSize r => r.judge s
  | .labelPresence r => r.judge s
  | .textUniqueness r => r.judge s
  | .headingPresence _ => HeadingPresence.judge s
  | .altTextPresence r => r.judge s
  | .elementAlignment r => r.judge s
  | .spacing r => r.judge
  | .imageAlt => ImageAlt.judge s

/-- Why a rule cannot be judged. -/
inductive CheckError where
  | unknownType (type : String)
  | invalidCondition (kind : RuleKind) (reason : ConditionError)

def CheckError.message : CheckError → String
  | unknownType type => s!"Unknown rule type: {type}"
  | invalidCondition kind reason =>
    s!"Invalid condition for `{kind.type.name}`: {reason.message}"

namespace Rule

/-- The requirement of a rule that can be judged. -/
def requirement (rule : Rule) : Except CheckError Requirement :=
  match rule.condition with
  | .valid r => .ok r
  | .unknown type _ => .error (.unknownType type)
  | .invalid kind reason _ => .error (.invalidCondition kind reason)

def findingOf (rule : Rule) (status : Status) (message : String) (affected : List AffectedNode)
    (unverified : Bool) : Finding :=
  ⟨rule.id, rule.description, status, message, affected, unverified⟩

/-- How the rule turns out on the scanned elements. -/
def finding (rule : Rule) (s : Scan) : Finding :=
  match rule.requirement with
  | .error e => rule.findingOf .error s!"Rule check failed: {e.message}" [] false
  | .ok r =>
    match r.judge s with
    | .passed message => rule.findingOf .passed message [] false
    | .unverified message => rule.findingOf .passed message [] true
    | .failed severity message affected =>
      rule.findingOf (.ofSeverity (rule.severity.getD severity)) message affected false

end Rule

end CanvasLint
