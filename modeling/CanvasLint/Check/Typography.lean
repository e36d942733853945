import CanvasLint.Check.Scan

/-!
Checks of how texts are set: whether sizes stay within bounds, and whether there is a heading.
-/
namespace CanvasLint

open Canvas (FontSize Node)

namespace FontSizeRange

/-- The lower bound, from the thresholds if the rule gives none. -/
def lower (r : FontSizeRange) (t : Thresholds) : Float :=
  r.min.getD t.defaultMinFontSize

def outside (r : FontSizeRange) (t : Thresholds) (size : Float) : Bool :=
  size < r.lower t || match r.max with
    | some max => size > max
    | none => false

def judge (r : FontSizeRange) (s : Scan) : Verdict :=
  let min := r.lower s.thresholds
  let failing := s.texts.filter fun n => r.outside s.thresholds (s.fontSize n)
  if failing.isEmpty then
    .passed <| match r.max with
      | some max => s!"All text is between {Number.plain min}px and {Number.plain max}px"
      | none => s!"All text meets minimum font size ({Number.plain min}px)"
  else
    let problem := if r.max.isSome then "outside allowed range" else "below minimum size"
    .failed ruleType.defaultSeverity
      (countOf failing.length "text element" ++ " " ++ problem) (failing.map s.describe)

end FontSizeRange

namespace HeadingPresence

def headingNames : List String := ["heading", "title", "header"]

/-- Text that is named like a heading or set large. Mixed sizes do not count as large. -/
def isHeading (t : Thresholds) (n : Node) : Bool :=
  n.nameContainsAny headingNames || match n.fontSize with
    | some (.px size) => size ≥ t.headingMinFontSize
    | _ => false

def judge (s : Scan) : Verdict :=
  let found := s.texts.filter (isHeading s.thresholds)
  if found.isEmpty then
    .failed ruleType.defaultSeverity
      "No heading elements found - add section headers for clarity" []
  else .passed ("Found " ++ countOf found.length "heading element")

end HeadingPresence

end CanvasLint
