import CanvasLint.Json.Writer
import CanvasLint.Report.Report
import CanvasLint.Text.Paint

/-!
How a report is shown. As text, the findings that are no passes come one after the other and a
colored summary ends the list; as JSON, the whole report is shown; the compact style has one entry
for every finding.
-/
namespace CanvasLint.Report

inductive Style where
  | text
  | json
  | compact
deriving DecidableEq, Repr

namespace Style

def name : Style → String
  | text => "text"
  | json => "json"
  | compact => "compact"

def all : List Style := [text, json, compact]

def ofName? (s : String) : Option Style :=
  all.find? (·.name == s)

end Style

/-- The ink of the summary goes by the most serious finding. -/
def ink (r : Report) : Text.Ink :=
  if r.hasFindingsAt .error then .red
  else if r.hasFindingsAt .warning then .yellow
  else .green

def asText (r : Report) : String :=
  String.join ((r.errors ++ r.warnings).map fun f => f.format ++ "\n")
    ++ Text.paint r.ink r.summary ++ "\n"

def asJson (r : Report) : String :=
  r.write.indented ++ "\n"

/-- A finding with the ids of the elements that are responsible. -/
def compactEntry (f : Finding) : String :=
  let ids := ",".intercalate (f.affected.map (·.id))
  s!"{f.status.name}: [{f.ruleId}] {f.message}" ++ if ids.isEmpty then "" else s!" ({ids})"

def asCompact (r : Report) : String :=
  String.join (r.findings.map fun f => compactEntry f ++ "\n")

def render (r : Report) : Style → String
  | .text => r.asText
  | .json => r.asJson
  | .compact => r.asCompact

end CanvasLint.Report
