import CanvasLint.Report.Finding

/-!
Reports: the findings of a scan by how they turned out, with a score. The score is the percentage
of rules that passed, rounded to a whole number; the division is done in floats, so a percentage
that ends in a half can come out below it. Without rules the score is 100.
-/
namespace CanvasLint

open Json (Value)

structure Report where
  passed : List Finding
  warnings : List Finding
  errors : List Finding
  /-- From 0 to 100. -/
  score : Nat
  /-- The number of elements that the rules were judged against. -/
  nodesScanned : Nat

namespace Report

/-- The percentage of passed rules, halves going up. -/
def scoreOf (passed total : Nat) : Nat :=
  if total = 0 then 100
  else (Number.nearestByte (Float.ofNat passed / Float.ofNat total * 100)).toNat

def ofFindings (findings : List Finding) (nodesScanned : Nat) : Report :=
  let passed := findings.filter (·.status = .passed)
  { passed
    warnings := findings.filter (·.status = .warning)
    errors := findings.filter (·.status = .error)
    score := scoreOf passed.length findings.length
    nodesScanned }

/-- All findings, the most serious first. -/
def findings (r : Report) : List Finding :=
  r.errors ++ r.warnings ++ r.passed

def count (r : Report) : Nat :=
  r.passed.length + r.warnings.length + r.errors.length

def hasErrors (r : Report) : Bool :=
  !r.errors.isEmpty

/-- Some finding is at least this serious. -/
def hasFindingsAt (r : Report) : Severity → Bool
  | .error => !r.errors.isEmpty
  | .warning => !r.errors.isEmpty || !r.warnings.isEmpty

/-- The most serious finding of a rule. -/
def finding? (r : Report) (ruleId : String) : Option Finding :=
  r.findings.find? (·.ruleId == ruleId)

def summary (r : Report) : String :=
  s!"Score {r.score}%: {r.passed.length} passed, {r.warnings.length} warning(s), "
    ++ s!"{r.errors.length} error(s) across {r.nodesScanned} node(s)"

def write (r : Report) : Value :=
  .object [("passed", .array (r.passed.map Finding.write)),
    ("warnings", .array (r.warnings.map Finding.write)),
    ("errors", .array (r.errors.map Finding.write)),
    ("score", .nat r.score),
    ("totalNodesScanned", .nat r.nodesScanned)]

end Report

end CanvasLint
