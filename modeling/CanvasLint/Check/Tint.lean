import CanvasLint.Check.Scan

/-!
The check of text colors: every text needs a solid color, without which its contrast cannot be
computed. The contrast itself is not part of the check.
-/
namespace CanvasLint.ColorContrast

open Canvas (Fills Node)

/-- Why fills give no text color, if they do not. -/
def missingColor? : Fills → Option String
  | .mixed => some "Mixed text color"
  | .paints [] => some "No text color defined"
  | .paints ps =>
    if ps.any fun p => p.kind = .solid && p.color.isSome then none else some "No solid text color"

def judge (r : ColorContrast) (s : Scan) : Verdict :=
  let failing := s.texts.filterMap fun n =>
    (missingColor? n.fills).map (s.describe n).withIssue
  if failing.isEmpty then
    .passed s!"Color contrast check passed (min {Number.plain r.minContrast}:1)"
  else
    .failed ruleType.defaultSeverity
      (countOf failing.length "element" ++ " may have contrast issues") failing

end CanvasLint.ColorContrast
