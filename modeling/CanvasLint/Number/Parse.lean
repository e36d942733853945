import CanvasLint.Number.Dyadic
import CanvasLint.Text.Digit

/-!
Floats from decimals. The float nearest to the decimal is taken; what lies beyond the largest float
becomes infinite and what lies below the smallest becomes zero. A number that a user writes may
have a sign, a point and an exponent, or be one of the words for what is no finite number.
-/
namespace CanvasLint.Number

/-- The number that decimal digits spell. -/
def natOfDigits (digits : List Char) : Nat :=
  digits.foldl (fun n c => 10 * n + Text.digitValue c) 0

def infinity : Float := 1 / 0

def notANumber : Float := 0 / 0

/-- The float nearest to `digits · 10 ^ exponent`. Powers of ten that decide on their own are not
computed. -/
def ofDecimal (digits : Nat) (exponent : Int) : Float :=
  let size : Int := (Nat.toDigits 10 digits).length + exponent
  if digits = 0 ∨ size < -330 then 0
  else if 310 < size then infinity
  else match exponent with
    | .ofNat e => Float.ofScientific digits false e
    | .negSucc e => Float.ofScientific digits true (e + 1)

/-- The float that whole digits, digits after a point and an exponent spell. -/
def ofParts (whole fraction : List Char) (exponent : Int) : Float :=
  ofDecimal (natOfDigits (whole ++ fraction)) (exponent - fraction.length)

/-- A whole number with a sign or without. -/
def integer? : List Char → Option Int
  | '-' :: digits => (natural? digits).map fun n => -(n : Int)
  | '+' :: digits => (natural? digits).map Int.ofNat
  | digits => (natural? digits).map Int.ofNat
where
  natural? (digits : List Char) : Option Nat :=
    if digits.isEmpty || !digits.all Char.isDigit then none else some (natOfDigits digits)

/-- The exponent that ends a decimal, zero when nothing is left. -/
def exponent? : List Char → Option Int
  | [] => some 0
  | c :: s => if c = 'e' ∨ c = 'E' then integer? s else none

/-- The digits after a point, and what is left. -/
def fractionOf : List Char → List Char × List Char
  | '.' :: s => (s.takeWhile Char.isDigit, s.dropWhile Char.isDigit)
  | s => ([], s)

/-- A number without a sign. One digit has to be there, before the point or after it. -/
def magnitude? (s : List Char) : Option Float :=
  match String.ofList (s.map Char.toLower) with
  | "inf" | "infinity" => some infinity
  | "nan" => some notANumber
  | _ =>
    let whole := s.takeWhile Char.isDigit
    let (fraction, rest) := fractionOf (s.dropWhile Char.isDigit)
    if whole.isEmpty && fraction.isEmpty then none
    else (exponent? rest).map (ofParts whole fraction)

/-- The number that a text spells. -/
def ofText? (text : String) : Option Float :=
  match text.toList with
  | '-' :: s => (magnitude? s).map fun x => -x
  | '+' :: s => magnitude? s
  | s => magnitude? s

end CanvasLint.Number
