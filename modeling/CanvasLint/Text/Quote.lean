import CanvasLint.Text.Blank
import CanvasLint.Text.HiddenTable

/-!
Texts in double quotes, as messages show a text that stands where something else was expected.
The usual controls and the quote itself have short escapes; everything else that would not be
visible is given by its code point in hexadecimal.
-/
namespace CanvasLint.Text

/-- The character cannot be shown as it is. -/
def isHidden (c : Char) : Bool :=
  c.toNat < 0x20 || c.toNat = 0x7F || (0x7F < c.toNat && within hiddenRanges c.toNat)

/-- A character inside quotes. -/
def quoteChar (c : Char) : List Char :=
  if c = '"' then ['\\', '"']
  else if c = '\\' then ['\\', '\\']
  else if c = '\n' then ['\\', 'n']
  else if c = '\r' then ['\\', 'r']
  else if c = '\t' then ['\\', 't']
  else if c = '\x00' then ['\\', '0']
  else if isHidden c then '\\' :: 'u' :: '\x7b' :: (Nat.toDigits 16 c.toNat ++ ['\x7d'])
  else [c]

/-- The text in quotes. -/
def quote (s : String) : String :=
  String.ofList ('"' :: (s.toList.flatMap quoteChar ++ ['"']))

end CanvasLint.Text
