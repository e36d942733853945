import CanvasLint.Canvas.Document
import CanvasLint.Color.Contrast

/-!
What a text is seen against: the fill of the nearest enclosing element that has a solid color, and
white if there is none. Elements that merely lie underneath are not considered.
-/
namespace CanvasLint.Canvas

namespace Document

/-- Goes through elements, children before their parents, following the parents from `wanted` on
up to one with a solid color. -/
def colorFrom (d : Document) (wanted : NodeId) : List Node → Rgb
  | [] => .white
  | n :: above =>
    if n.id = wanted then
      match n.fills.solidColor?, d.parentOf n.id with
      | some color, _ => color
      | none, some parent => d.colorFrom parent above
      | none, none => .white
    else d.colorFrom wanted above

/-- The color behind an element. An element comes after its parent in the document, so one pass
from the end to the start meets all ancestors. -/
def backgroundOf (d : Document) (id : NodeId) : Rgb :=
  match d.parentOf id with
  | some parent => d.colorFrom parent d.nodes.reverse
  | none => .white

/-- The contrast of a text against its background, if the text has a usable color. -/
def analyze (d : Document) (n : Node) (mixedSize : Float) : Option Contrast.Analysis := do
  let foreground ← n.fills.solidColor?
  return Contrast.analyze foreground (d.backgroundOf n.id) (n.resolvedSize mixedSize)
    n.resolvedWeight

end Document

end CanvasLint.Canvas
