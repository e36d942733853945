import CanvasLint.Canvas.Scan
import CanvasLint.Check.Judgement
import CanvasLint.Report.Report

/-!
Scans of a document: the rules are judged against elements of the document, and the findings become
a report. A scan of the selection needs one, and thresholds that make sense.
-/
namespace CanvasLint

open Canvas (Document Node)

/-- Judges the rules against these elements of a document. -/
def Report.ofRules (d : Document) (t : Thresholds) (nodes : List Node) (rules : List Rule) :
    Report :=
  let scan : Scan := ⟨nodes, d.host, t⟩
  .ofFindings (rules.map (·.finding scan)) nodes.length

inductive ScanError where
  | emptySelection

def ScanError.message : ScanError → String
  | emptySelection => "Nothing selected: select at least one element to scan"

/-- Judges the rules against the selected elements and everything below them. -/
def Report.ofSelection (d : Document) (t : Thresholds) (rules : List Rule) :
    Except ScanError Report :=
  if d.selection.isEmpty then .error .emptySelection
  else .ok (.ofRules d t (d.collect d.selection) rules)

end CanvasLint
