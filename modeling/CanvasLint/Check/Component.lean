import CanvasLint.Check.Scan

/-!
Checks for components: an instance of one component by its exact name, and anything that looks like
the component one is looking for.
-/
namespace CanvasLint

open Canvas (Node NodeKind)

/-- What buttons are called. -/
def buttonName : String := "button"

namespace RequiredComponent

def isInstanceOf (r : RequiredComponent) (s : Scan) (n : Node) : Bool :=
  n.kind = .componentInstance && match s.host.mainComponentOf n.id with
    | some component => component.name == r.componentName
    | none => false

def judge (r : RequiredComponent) (s : Scan) : Verdict :=
  if s.nodes.any (r.isInstanceOf s) then
    .passed s!"Required component \"{r.componentName}\" found"
  else .failed ruleType.defaultSeverity s!"Required component \"{r.componentName}\" not found" []

end RequiredComponent

namespace ComponentPresence

def fits (r : ComponentPresence) (n : Node) : Bool :=
  n.nameContains r.componentName
    || ((n.kind = .component || n.kind = .componentInstance) && n.nameContains buttonName)

def judge (r : ComponentPresence) (s : Scan) : Verdict :=
  let found := s.nodes.filter r.fits
  if found.isEmpty then
    .failed ruleType.defaultSeverity
      s!"No \"{r.componentName}\" found - ensure screen has a clear primary action" []
  else
    .passed ("Found " ++ countOf found.length "element" ++ s!" matching \"{r.componentName}\"")

end ComponentPresence

namespace ElementSize

/-- Containers of controls, and whatever is called a button. -/
def isInteractive (n : Node) : Bool :=
  n.kind = .frame || n.kind = .component || n.kind = .componentInstance
    || n.nameContains buttonName

def tooSmall (r : ElementSize) (n : Node) : Bool :=
  n.width < r.minWidth || n.height < r.minHeight

/-- Both sides of the smallest size. -/
def sides (r : ElementSize) : String :=
  s!"{Number.plain r.minWidth}x{Number.plain r.minHeight}px"

/-- Names the element with its exact size; the complaint gives the size in whole pixels. -/
def complaint (r : ElementSize) (n : Node) : AffectedNode :=
  let width := Number.plain (Number.roundHalfAway n.width)
  let height := Number.plain (Number.roundHalfAway n.height)
  let entry := (AffectedNode.ofNode n).withIssue s!"Size {width}x{height}px is below {r.sides}"
  { entry with width := some n.width, height := some n.height }

def judge (r : ElementSize) (s : Scan) : Verdict :=
  let failing := s.nodes.filter fun n => isInteractive n && r.tooSmall n
  if failing.isEmpty then
    .passed s!"All interactive elements meet minimum size requirements ({r.sides})"
  else
    .failed ruleType.defaultSeverity
      (countOf failing.length "interactive element"
        ++ s!" below minimum touch target size ({r.sides})")
      (failing.map r.complaint)

end ElementSize

end CanvasLint
