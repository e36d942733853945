import CanvasLint.Text.Blank
import CanvasLint.Text.CaseTable

/-!
Lower-casing of whole texts. It is character by character with two exceptions: a dotted capital I
becomes two characters, and a capital sigma becomes the final form where a word ends. Because of
the second, the lower case of a part of a text need not be a part of the lower case of the text.
-/
namespace CanvasLint.Text

/-- The lower-case form of a character on its own. -/
def lowerChar (c : Char) : Char :=
  match caseRuns.findSome? (·.lower? c.toNat) with
  | some code => Char.ofNat code
  | none => c

def isCased (c : Char) : Bool :=
  within casedRanges c.toNat

def isCaseIgnorable (c : Char) : Bool :=
  within caseIgnorableRanges c.toNat

/-- A letter with case comes first, once marks and word punctuation are looked through. -/
def startsCased (s : List Char) : Bool :=
  match s.dropWhile isCaseIgnorable with
  | [] => false
  | c :: _ => isCased c

/-- The lower-case form of a character between what comes before it, nearest character first, and
what comes after it. A sigma ends a word if a letter comes before and none after. -/
def lowerBetween (before : List Char) (c : Char) (after : List Char) : List Char :=
  if c = 'Σ' then
    if startsCased before && !startsCased after then ['ς'] else ['σ']
  else if c = 'İ' then ['i', '\u0307']
  else [lowerChar c]

def lowerAfter (before : List Char) : List Char → List Char
  | [] => []
  | c :: after => lowerBetween before c after ++ lowerAfter (c :: before) after

/-- The lower case of a text. -/
def lowercase (s : String) : List Char :=
  lowerAfter [] s.toList

end CanvasLint.Text
