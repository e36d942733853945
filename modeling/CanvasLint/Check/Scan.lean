import CanvasLint.Canvas.Host
import CanvasLint.Report.Finding
import CanvasLint.Thresholds

/-!
What a check may look at, and what it can answer. A check sees the scanned elements, the host that
they come from, and the thresholds; it answers with a verdict, which becomes the finding of the rule
that asked.
-/
namespace CanvasLint

open Canvas (Host Node)

structure Scan where
  /-- The scanned elements in order. -/
  nodes : List Node
  /-- Where the elements come from. -/
  host : Host
  thresholds : Thresholds

namespace Scan

def texts (s : Scan) : List Node :=
  s.nodes.filter Node.isText

/-- The size of a text, with the usual stand-in for mixed sizes. -/
def fontSize (s : Scan) (n : Node) : Float :=
  n.resolvedSize s.thresholds.mixedFontSize

def describe (s : Scan) (n : Node) : AffectedNode :=
  .describe n s.thresholds.mixedFontSize

end Scan

inductive Verdict where
  | passed (message : String)
  /-- The rule passes without having been looked into. -/
  | unverified (message : String)
  /-- The rule fails, as seriously as it says itself or else with this severity. -/
  | failed (severity : Severity) (message : String) (affected : List AffectedNode)

/-- A number of things, one or several. -/
def countOf (count : Nat) (noun : String) : String :=
  if count = 1 then s!"{count} {noun}" else s!"{count} {noun}s"

end CanvasLint
