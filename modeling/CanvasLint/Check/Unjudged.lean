import CanvasLint.Check.Scan
import CanvasLint.Check.Component

/-!
Rules that are accepted without being looked into. They always pass, and their findings say so.
-/
namespace CanvasLint

namespace ElementAlignment

/-- The target that stands for buttons of any name. -/
def anyButton : String := "PrimaryButton"

def judge (r : ElementAlignment) (s : Scan) : Verdict :=
  let targets := s.nodes.filter fun n =>
    n.nameContains r.target || (r.target == anyButton && n.nameContains buttonName)
  .unverified ("Element alignment not verified: found " ++ countOf targets.length "element"
    ++ s!" for \"{r.target}\", expected {r.alignment} alignment")

end ElementAlignment

namespace Spacing

def range (r : Spacing) : String :=
  match r.max with
  | some max => s!"{Number.plain r.min}-{Number.plain max}px"
  | none => s!"at least {Number.plain r.min}px"

def judge (r : Spacing) : Verdict :=
  .unverified s!"Spacing not verified: gaps are not measured (expected {r.range})"

end Spacing

end CanvasLint
