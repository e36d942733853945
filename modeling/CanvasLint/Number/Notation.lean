import CanvasLint.Number.Decimal

/-!
How floats are written. Messages use positional notation only; JSON texts keep a `.0` on whole
values and change to an exponent for very large and very small ones; tables of exact values use a
fixed number of decimals. Whole numbers that are read as such are written by their digits.
-/
namespace CanvasLint.Number

/-- The characters of a decimal's digits without a point. -/
def digitsOf (n : Nat) : List Char :=
  Nat.toDigits 10 n

/-- Puts the decimal point `exponent` places from the right end, filling up with zeros. A whole
value gets no point. -/
def positional (digits : List Char) (exponent : Int) : List Char :=
  if 0 ≤ exponent then digits ++ List.replicate exponent.toNat '0'
  else
    let places := (-exponent).toNat
    if places < digits.length then
      digits.take (digits.length - places) ++ '.' :: digits.drop (digits.length - places)
    else
      '0' :: '.' :: (List.replicate (places - digits.length) '0' ++ digits)

/-- One digit before the point, and the power of ten with its sign. -/
def scientific (digits : List Char) (exponent : Int) : List Char :=
  let power := exponent + digits.length - 1
  let tail := if power < 0 then '-' :: digitsOf (-power).toNat else '+' :: digitsOf power.toNat
  match digits with
  | [] => []
  | [d] => d :: 'e' :: tail
  | d :: rest => d :: '.' :: rest ++ 'e' :: tail

/-- The powers of ten of the first digit that JSON texts write positionally. -/
def positionalPowers : Int × Int := (-5, 15)

/-- The layout of JSON texts, where every float shows that it is one. -/
def jsonLayout (digits : List Char) (exponent : Int) : List Char :=
  let power := exponent + digits.length - 1
  if positionalPowers.1 ≤ power ∧ power ≤ positionalPowers.2 then
    let text := positional digits exponent
    if 0 ≤ exponent then text ++ ['.', '0'] else text
  else scientific digits exponent

def withSign (negative : Bool) (text : List Char) : String :=
  String.ofList (if negative then '-' :: text else text)

/-- The float as messages show it: the shortest digits that read back, never with an exponent,
a half between two of them going up; `-0` keeps its sign. -/
def plain (x : Float) : String :=
  match Dyadic.ofFloat? x with
  | none => if x > 0 then "inf" else if x < 0 then "-inf" else "NaN"
  | some d =>
    let decimal := Decimal.shortest d .up
    withSign d.negative (positional (digitsOf decimal.digits) decimal.exponent)

/-- The float as a JSON text shows it, if it is finite. -/
def json? (x : Float) : Option String :=
  (Dyadic.ofFloat? x).map fun d =>
    let decimal := Decimal.shortest d .even
    withSign d.negative (jsonLayout (digitsOf decimal.digits) decimal.exponent)

/-- The float with exactly this many decimals. -/
def fixed (decimals : Nat) (x : Float) : String :=
  match Dyadic.ofFloat? x with
  | none => plain x
  | some d =>
    let units := Decimal.places d decimals
    let fraction := digitsOf (units % tenTo decimals)
    let zeros := List.replicate (decimals - fraction.length) '0'
    withSign d.negative (digitsOf (units / tenTo decimals) ++ '.' :: (zeros ++ fraction))

end CanvasLint.Number
