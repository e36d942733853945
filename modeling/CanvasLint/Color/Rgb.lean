import CanvasLint.Number.Dyadic
import CanvasLint.Text.Digit
import CanvasLint.Text.Slice

/-!
Colors with eight bits per channel and their hexadecimal spelling. A text spells a color exactly
when it is six hexadecimal digits after at most one leading `#`; a color is written with the `#`
and small letters.
-/
namespace CanvasLint

structure Rgb where
  red : UInt8
  green : UInt8
  blue : UInt8
deriving DecidableEq, Repr

namespace Rgb

def white : Rgb := ⟨255, 255, 255⟩

def black : Rgb := ⟨0, 0, 0⟩

/-- The text without one leading `#`. -/
def dropMark : List Char → List Char
  | '#' :: s => s
  | s => s

/-- The channel that is spelled from a byte on. -/
def channel? (digits : List Char) (start : Nat) : Option UInt8 :=
  (Text.slice? start (start + 2) digits).bind Text.hexByte?

/-- The color that a text spells. Its channels are cut out after it has been made sure that the text
has the right size and holds nothing but digits. -/
def ofHex? (text : String) : Option Rgb :=
  let digits := dropMark text.toList
  if Text.bytes digits = 6 && digits.all Text.isHexDigit then do
    return ⟨← channel? digits 0, ← channel? digits 2, ← channel? digits 4⟩
  else none

def hexDigit (n : UInt8) : Char :=
  Char.ofNat (if n < 10 then '0'.toNat + n.toNat else 'a'.toNat + n.toNat - 10)

def channelHex (n : UInt8) : List Char :=
  [hexDigit (n / 16), hexDigit (n % 16)]

def toHex (c : Rgb) : String :=
  String.ofList ('#' :: (channelHex c.red ++ channelHex c.green ++ channelHex c.blue))

/-- Channels given as fractions of the full intensity, each rounded to the nearest of the 256
steps; what lies outside the range becomes its nearer end. -/
def ofFractions (red green blue : Float) : Rgb :=
  ⟨Number.nearestByte (red * 255), Number.nearestByte (green * 255), Number.nearestByte (blue * 255)⟩

end Rgb

end CanvasLint
