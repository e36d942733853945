/-!
Colored words for terminals, by the escape sequences of ECMA-48.
-/
namespace CanvasLint.Text

inductive Ink where
  | red
  | green
  | yellow

/-- The parameter that selects the ink. -/
def Ink.parameter : Ink → String
  | .red => "31"
  | .green => "32"
  | .yellow => "33"

/-- The words in this ink; what follows them is plain again. -/
def paint (ink : Ink) (words : String) : String :=
  s!"\x1b[{ink.parameter}m{words}\x1b[0m"

end CanvasLint.Text
