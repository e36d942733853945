import CanvasLint.Canvas.Node
import CanvasLint.Number.Notation

/-!
The sizes and distances that checks go by. They can be set freely, but a scan is made only when all
of them are finite and not negative.
-/
namespace CanvasLint

open Canvas (Node)

/-- How far apart two elements may lie to belong together: less than these distances along each
axis, from origin to origin. -/
structure Window where
  horizontal : Float
  vertical : Float

namespace Window

def near (w : Window) (a b : Node) : Bool :=
  (a.x - b.x).abs < w.horizontal && (a.y - b.y).abs < w.vertical

end Window

structure Thresholds where
  /-- The size assumed for text of mixed sizes. -/
  mixedFontSize : Float := 14
  /-- The least size where a rule for font sizes does not give one. -/
  defaultMinFontSize : Float := 12
  /-- Text of at least this size is a heading. -/
  headingMinFontSize : Float := 18
  /-- The name of rectangles that nobody has named. -/
  placeholderImageName : String := "Rectangle"
  /-- Where a label has to lie relative to its input. -/
  labelWindow : Window := ⟨200, 100⟩
  /-- Where a description has to lie relative to its image. -/
  altTextWindow : Window := ⟨100, 100⟩

/-- A threshold that is negative or not a finite number. -/
structure ThresholdError where
  field : String
  value : Float

def ThresholdError.message (e : ThresholdError) : String :=
  s!"Invalid engine threshold `{e.field}`: {Number.plain e.value}"

namespace Thresholds

def isValid (x : Float) : Bool :=
  x.isFinite && x ≥ 0

/-- The thresholds by name, in the order in which they are examined. -/
def named (t : Thresholds) : List (String × Float) :=
  [("mixed_font_size", t.mixedFontSize),
    ("default_min_font_size", t.defaultMinFontSize),
    ("heading_min_font_size", t.headingMinFontSize),
    ("label_proximity.horizontal", t.labelWindow.horizontal),
    ("label_proximity.vertical", t.labelWindow.vertical),
    ("alt_text_proximity.horizontal", t.altTextWindow.horizontal),
    ("alt_text_proximity.vertical", t.altTextWindow.vertical)]

/-- The first threshold that cannot be used. -/
def firstInvalid? (t : Thresholds) : Option ThresholdError :=
  (t.named.find? fun (_, value) => !isValid value).map fun (field, value) => ⟨field, value⟩

end Thresholds

end CanvasLint
