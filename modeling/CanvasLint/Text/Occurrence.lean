import CanvasLint.Text.Lowercase

/-!
Whether one text occurs in another, literally or regardless of case. Main statement: the scan
over the starting points decides whether the needle is a contiguous part.
-/
namespace CanvasLint.Text

/-- Some part of the text, from some character on, begins with the needle. -/
def occursIn (needle : List Char) : List Char → Bool
  | [] => needle.isEmpty
  | c :: s => needle.isPrefixOf (c :: s) || occursIn needle s

theorem occursIn_iff {needle s : List Char} : occursIn needle s = true ↔ needle <:+: s := by
  induction s with
  | nil => simp [occursIn]
  | cons c s ih => simp [occursIn, ih, List.infix_cons_iff]

/-- The needle occurs in the text as it is written. -/
def contains (text needle : String) : Bool :=
  occursIn needle.toList text.toList

/-- The lower case of the needle occurs in the lower case of the text. -/
def containsFolded (text needle : String) : Bool :=
  occursIn (lowercase needle) (lowercase text)

/-- Some needle occurs in the text regardless of case. -/
def containsAnyFolded (text : String) (needles : List String) : Bool :=
  needles.any (containsFolded text)

end CanvasLint.Text
