import CanvasLint.Check.Scan

/-!
Checks of what the texts of a screen say: a phrase that has to be there, and a phrase that may be
there once only.
-/
namespace CanvasLint

open Canvas (Node)

namespace RequiredText

def matchesText (r : RequiredText) (text : String) : Bool :=
  if r.caseSensitive then Text.contains text r.text else Text.containsFolded text r.text

/-- If no text has the phrase, every text might be the one that should have it. -/
def judge (r : RequiredText) (s : Scan) : Verdict :=
  let found := s.texts.filter fun n => r.matchesText n.text
  if found.isEmpty then
    .failed ruleType.defaultSeverity
      s!"Required text \"{r.text}\" not found" (s.texts.map s.describe)
  else .passed (s!"Required text \"{r.text}\" found in " ++ countOf found.length "element")

end RequiredText

namespace TextUniqueness

def mention (n : Node) : AffectedNode :=
  { AffectedNode.ofNode n with text := some n.text }

def judge (r : TextUniqueness) (s : Scan) : Verdict :=
  let found := s.texts.filter fun n => Text.containsFolded n.text r.targetText
  if found.length ≤ 1 then
    .passed s!"Text \"{r.targetText}\" appears appropriately ({found.length} times)"
  else
    .failed ruleType.defaultSeverity
      s!"Text \"{r.targetText}\" appears {found.length} times - consider using unique CTAs"
      (found.map mention)

end TextUniqueness

end CanvasLint
