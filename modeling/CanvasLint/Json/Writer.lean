import CanvasLint.Json.Value

/-!
Writing JSON values, either on one line or with two blanks of indentation per level. Both write
strings in the same way: the quote, the backslash and the controls are escaped and nothing else is.
A float that is not finite has no spelling and becomes `null`.
-/
namespace CanvasLint.Json

/-- A control character without an escape of its own, by its code. -/
def codeEscape (c : Char) : List Char :=
  let digits := Nat.toDigits 16 c.toNat
  '\\' :: 'u' :: (List.replicate (4 - digits.length) '0' ++ digits)

/-- A character inside a string. -/
def writeChar (c : Char) : List Char :=
  if c = '"' then ['\\', '"']
  else if c = '\\' then ['\\', '\\']
  else if c = '\x08' then ['\\', 'b']
  else if c = '\x0c' then ['\\', 'f']
  else if c = '\n' then ['\\', 'n']
  else if c = '\r' then ['\\', 'r']
  else if c = '\t' then ['\\', 't']
  else if c.toNat < 0x20 then codeEscape c
  else [c]

def writeString (s : String) : List Char :=
  '"' :: (s.toList.flatMap writeChar ++ ['"'])

def Number.write : Number → List Char
  | natural n => CanvasLint.Number.digitsOf n
  | negative n => '-' :: CanvasLint.Number.digitsOf n
  | real x => ((CanvasLint.Number.json? x).getD "null").toList

/-- How the parts of a list or an object are set apart. -/
structure Style where
  /-- What comes before each item, by the number of open brackets. -/
  lead : Nat → List Char
  /-- What stands between a key and its value. -/
  colon : List Char

namespace Style

def compact : Style :=
  ⟨fun _ => [], [':']⟩

def indented : Style :=
  ⟨fun depth => '\n' :: List.replicate (2 * depth) ' ', [':', ' ']⟩

end Style

mutual

/-- Writes a value that stands inside `depth` brackets. -/
def Value.write (style : Style) (depth : Nat) : Value → List Char
  | .null => ['n', 'u', 'l', 'l']
  | .bool true => ['t', 'r', 'u', 'e']
  | .bool false => ['f', 'a', 'l', 's', 'e']
  | .number n => n.write
  | .string s => writeString s
  | .array [] => ['[', ']']
  | .array (v :: vs) =>
    '[' :: (style.lead (depth + 1) ++ v.write style (depth + 1)
      ++ writeItems style depth vs ++ style.lead depth ++ [']'])
  | .object [] => ['\x7b', '\x7d']
  | .object ((k, v) :: ms) =>
    '\x7b' :: (style.lead (depth + 1) ++ writeString k ++ style.colon ++ v.write style (depth + 1)
      ++ writeMembers style depth ms ++ style.lead depth ++ ['\x7d'])

/-- The items after the first. -/
def writeItems (style : Style) (depth : Nat) : List Value → List Char
  | [] => []
  | v :: vs => ',' :: (style.lead (depth + 1) ++ v.write style (depth + 1)) ++ writeItems style depth vs

/-- The members after the first. -/
def writeMembers (style : Style) (depth : Nat) : List (String × Value) → List Char
  | [] => []
  | (k, v) :: ms =>
    ',' :: (style.lead (depth + 1) ++ writeString k ++ style.colon ++ v.write style (depth + 1))
      ++ writeMembers style depth ms

end

namespace Value

/-- The value on one line. -/
def compact (v : Value) : String :=
  String.ofList (v.write .compact 0)

/-- The value over several lines. -/
def indented (v : Value) : String :=
  String.ofList (v.write .indented 0)

end Value

end CanvasLint.Json
