import CanvasLint.Color.Luminance
import CanvasLint.Number.Notation

/-!
Contrast of a text color against a background: the ratio of their luminances, the four conformance
thresholds, and what to try when a pair falls short. An analysis keeps two views of the ratio
apart. Whether a threshold is met is decided on the exact ratio; what is shown, and what the hints
go by, is the ratio with two decimals.
-/
namespace CanvasLint

namespace Rgb

/-- The ratio of the lighter to the darker color, from 1 to 21; the order does not matter. -/
def contrast (foreground background : Rgb) : Float :=
  let a := foreground.luminance
  let b := background.luminance
  if a ≥ b then (a + 0.05) / (b + 0.05) else (b + 0.05) / (a + 0.05)

end Rgb

namespace Contrast

/-- The least ratio for the lower conformance level; large text needs less. -/
def required (largeText : Bool) : Float :=
  if largeText then 3 else 4.5

/-- The least ratio for the higher conformance level. -/
def requiredEnhanced (largeText : Bool) : Float :=
  if largeText then 4.5 else 7

def meetsAA (ratio : Float) (largeText : Bool) : Bool :=
  ratio ≥ required largeText

def meetsAAA (ratio : Float) (largeText : Bool) : Bool :=
  ratio ≥ requiredEnhanced largeText

inductive Grade where
  | fail
  | aa
  | aaa
deriving DecidableEq, Repr

def Grade.name : Grade → String
  | .fail => "Fail"
  | .aa => "AA"
  | .aaa => "AAA"

/-- Which of the four thresholds a ratio meets. -/
structure Passes where
  aa : Bool
  aaa : Bool
  aaLarge : Bool
  aaaLarge : Bool
deriving DecidableEq, Repr

def Passes.ofRatio (ratio : Float) : Passes :=
  ⟨meetsAA ratio false, meetsAAA ratio false, meetsAA ratio true, meetsAAA ratio true⟩

/-- The best level met, by the thresholds for large text or by the others. -/
def Passes.grade (p : Passes) (largeText : Bool) : Grade :=
  let (aa, aaa) := if largeText then (p.aaLarge, p.aaaLarge) else (p.aa, p.aaa)
  if aaa then .aaa else if aa then .aa else .fail

/-- Text is large from 18 points on, and from 14 points on when it is bold. A point is 1.33
pixels. -/
def isLargeText (size weight : Float) : Bool :=
  let points := size / 1.33
  points ≥ 18 || (points ≥ 14 && weight ≥ 700)

/-- The contrast of one text color against one background. -/
structure Analysis where
  /-- The ratio with two decimals, as it is shown. -/
  ratio : Float
  /-- The thresholds that the exact ratio meets. -/
  passes : Passes
  foreground : Rgb
  background : Rgb
  largeText : Bool

def analyze (foreground background : Rgb) (size weight : Float) : Analysis :=
  let ratio := foreground.contrast background
  { ratio := Number.toHundredths ratio
    passes := .ofRatio ratio
    foreground
    background
    largeText := isLargeText size weight }

def Analysis.grade (a : Analysis) : Grade :=
  a.passes.grade a.largeText

/-- What to try when the contrast is too low. -/
inductive Hint where
  | tooLow (ratio target : Float)
  | differMore
  | darkenText
  | lightenText
  | largeTextTarget
  | enlargeText

def Hint.text : Hint → String
  | .tooLow ratio target =>
    s!"Current contrast ratio is {Number.plain ratio}:1, needs to be at least {Number.plain target}:1"
  | .differMore => "Consider using significantly different colors"
  | .darkenText => "Try darkening the text color or lightening the background"
  | .lightenText => "Alternatively, lighten the text color or darken the background"
  | .largeTextTarget => "For large text, you only need 3:1 ratio"
  | .enlargeText => "Consider making text larger (18pt+) to lower contrast requirements"

/-- Hints for a shown ratio below what the text size requires; none when it is reached. -/
def hints (ratio : Float) (largeText : Bool) : List Hint :=
  if ratio ≥ required largeText then []
  else
    [.tooLow ratio (required largeText)]
      ++ (if ratio < 2 then [.differMore] else [.darkenText, .lightenText])
      ++ [if largeText then .largeTextTarget else .enlargeText]

/-- A text that should spell a color does not. -/
inductive ColorError where
  | notHex (text : String)

def ColorError.message : ColorError → String
  | .notHex text => s!"Invalid hex color format: `{text}`"

/-- The color that a text spells, or the complaint about it. -/
def colorOf (text : String) : Except ColorError Rgb :=
  match Rgb.ofHex? text with
  | some color => .ok color
  | none => .error (.notHex text)

/-- Both colors of a pair; the foreground is complained about first. -/
def pairOf (foreground background : String) : Except ColorError (Rgb × Rgb) := do
  return (← colorOf foreground, ← colorOf background)

/-- The exact ratio of two colors given as texts. -/
def ratioOf (foreground background : String) : Except ColorError Float := do
  let (fg, bg) ← pairOf foreground background
  return fg.contrast bg

end Contrast

end CanvasLint
