import CanvasLint.Color.Contrast
import CanvasLint.Command.Failure
import CanvasLint.Command.Invocation
import CanvasLint.Text.Paint

/-!
The contrast of two colors, as it is shown to users: the ratio, what it is enough for, and hints
when it is too low.
-/
namespace CanvasLint.Command

open Contrast (Analysis)

namespace Swatch

def mark (met : Bool) : String :=
  if met then Text.paint .green "pass" else Text.paint .red "fail"

def heading (a : Analysis) : String :=
  s!"{a.foreground.toHex} on {a.background.toHex}: {Number.plain a.ratio}:1 ({a.grade.name})"

def lines (a : Analysis) : List String :=
  [heading a,
    "  AA normal  " ++ mark a.passes.aa,
    "  AA large   " ++ mark a.passes.aaLarge,
    "  AAA normal " ++ mark a.passes.aaa,
    "  AAA large  " ++ mark a.passes.aaaLarge]
    ++ (Contrast.hints a.ratio a.largeText).map fun hint => "  = help: " ++ hint.text

def text (a : Analysis) : String :=
  String.join ((lines a).map (· ++ "\n"))

end Swatch

/-- The analysis that is asked for. -/
def ContrastRequest.analysis (r : ContrastRequest) : Except Failure Analysis :=
  match Contrast.pairOf r.foreground r.background with
  | .ok (foreground, background) =>
    .ok (Contrast.analyze foreground background r.fontSize r.fontWeight)
  | .error error => .error (.noContrast error)

end CanvasLint.Command
