/-!
How serious a failed rule is, and how a rule turned out. Errors are more serious than warnings, and
only a rule that failed has a severity.
-/
namespace CanvasLint

inductive Severity where
  | warning
  | error
deriving DecidableEq, Repr

namespace Severity

def name : Severity → String
  | warning => "warning"
  | error => "error"

def ofName? : String → Option Severity
  | "warning" => some warning
  | "error" => some error
  | _ => none

end Severity

inductive Status where
  | passed
  | warning
  | error
deriving DecidableEq, Repr

namespace Status

def name : Status → String
  | passed => "passed"
  | warning => "warning"
  | error => "error"

def all : List Status := [passed, warning, error]

def ofName? (s : String) : Option Status :=
  all.find? (·.name == s)

def ofSeverity : Severity → Status
  | .warning => warning
  | .error => error

def severity? : Status → Option Severity
  | passed => none
  | warning => some .warning
  | error => some .error

end Status

end CanvasLint
