/-!
Blank characters and trimming. The set is the property White_Space of the Unicode character
database, so it holds more than the ASCII blanks: a no-break space is blank, a zero-width space
is not.
-/
namespace CanvasLint.Text

/-- First and last of each range of blank characters. -/
def blankRanges : List (Nat × Nat) :=
  [(0x09, 0x0D), (0x20, 0x20), (0x85, 0x85), (0xA0, 0xA0), (0x1680, 0x1680), (0x2000, 0x200A),
    (0x2028, 0x2029), (0x202F, 0x202F), (0x205F, 0x205F), (0x3000, 0x3000)]

/-- The code point lies in one of the ranges. -/
def within (ranges : List (Nat × Nat)) (code : Nat) : Bool :=
  ranges.any fun range => range.1 ≤ code && code ≤ range.2

def isBlank (c : Char) : Bool :=
  within blankRanges c.toNat

/-- The text without the blanks at either end. -/
def trimmed (s : List Char) : List Char :=
  ((s.dropWhile isBlank).reverse.dropWhile isBlank).reverse

def trim (s : String) : String :=
  String.ofList (trimmed s.toList)

/-- Nothing but blanks, or nothing at all. -/
def blank (s : String) : Bool :=
  s.toList.all isBlank

example : isBlank '\u00a0' ∧ isBlank '\x0c' ∧ ¬ isBlank '\u200b' := by decide

end CanvasLint.Text
