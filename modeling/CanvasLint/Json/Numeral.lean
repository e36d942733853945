import CanvasLint.Json.Fault
import CanvasLint.Text.Digit

/-!
Numbers in JSON texts. A numeral is first split into its parts, which fails only on a malformed
spelling, and then evaluated, which fails only on a magnitude that no float reaches. A whole number
within 64 bits is kept as such. Any other is the float of its leading digits, as many as fit into
64 bits, scaled by a power of ten; both steps round, so the result can differ in the last place
from the float nearest to the numeral.
-/
namespace CanvasLint.Json

open Text (Rest Tail Reader)

/-- The parts of a number as it is spelled; the digits are characters. -/
structure Numeral where
  negative : Bool
  whole : List Char
  /-- The digits after the point, if there is one. -/
  fraction : List Char
  /-- The exponent with its sign, if there is one; `true` is a negative exponent. -/
  exponent : Option (Bool × List Char)

namespace Numeral

/-- The digits of an exponent. A text that ends in front of them is at fault for the given
cause. -/
def readPower (ended : Cause) (negative : Bool) : Reader Fault (Bool × List Char) := fun s =>
  match s with
  | [] => .error (.atEnd ended)
  | c :: t =>
    if c.isDigit then
      .ok ((negative, c :: t.takeWhile Char.isDigit), (Tail.dropWhile Char.isDigit t).behind c)
    else .error (.upon .invalidNumber (c :: t))

/-- The exponent after its letter. -/
def readExponent (ended : Cause) : Reader Fault (Bool × List Char) := fun s =>
  match s with
  | '+' :: t => Reader.behind '+' (readPower ended false t)
  | '-' :: t => Reader.behind '-' (readPower ended true t)
  | s => readPower ended false s

/-- The exponent, if the text goes on with one. -/
def readExponent? (ended : Cause) (s : List Char) :
    Except Fault (Option (Bool × List Char) × Tail s) :=
  match s with
  | c :: t =>
    if c = 'e' ∨ c = 'E' then
      match readExponent ended t with
      | .error fault => .error fault
      | .ok (e, r) => .ok (some e, (r.behind c).toTail)
    else .ok (none, .whole (c :: t))
  | [] => .ok (none, .whole [])

/-- What follows the whole part: a point with at least one digit, an exponent, both or neither. -/
def readTail (ended : Cause) (negative : Bool) (whole : List Char) (s : List Char) :
    Except Fault (Numeral × Tail s) :=
  match s with
  | '.' :: t =>
    let rest := Tail.dropWhile Char.isDigit t
    match t.takeWhile Char.isDigit with
    | [] => if t.isEmpty then .error (.atEnd ended) else .error (.upon .invalidNumber t)
    | fraction =>
      match readExponent? ended rest.1 with
      | .error fault => .error fault
      | .ok (exponent, r) =>
        .ok (⟨negative, whole, fraction, exponent⟩, ((rest.further r).behind '.').toTail)
  | s =>
    match readExponent? ended s with
    | .error fault => .error fault
    | .ok (exponent, r) => .ok (⟨negative, whole, [], exponent⟩, r)

/-- The digits from the first on. A zero stands alone in front of the point. -/
def readUnsigned (ended : Cause) (negative : Bool) : Reader Fault Numeral := fun s =>
  match s with
  | [] => .error (.atEnd ended)
  | c :: t =>
    if c = '0' then
      if (t.head?.map Char.isDigit).getD false then .error (.upon .invalidNumber t)
      else
        match readTail ended negative ['0'] t with
        | .error fault => .error fault
        | .ok (n, r) => .ok (n, r.behind c)
    else if c.isDigit then
      let rest := Tail.dropWhile Char.isDigit t
      match readTail ended negative (c :: t.takeWhile Char.isDigit) rest.1 with
      | .error fault => .error fault
      | .ok (n, r) => .ok (n, (rest.further r).behind c)
    else .error (.upon .invalidNumber (c :: t))

/-- The longest numeral at the front of the text. -/
def read (ended : Cause) : Reader Fault Numeral := fun s =>
  match s with
  | '-' :: t => Reader.behind '-' (readUnsigned ended true t)
  | s => readUnsigned ended false s

/-- Adds digits to a number as long as it does not exceed the limit; the digits from the first
that does not fit on are left over. -/
def accumulate (limit : Nat) (n : Nat) : List Char → Nat × List Char
  | [] => (n, [])
  | c :: rest =>
    if 10 * n + Text.digitValue c ≤ limit then accumulate limit (10 * n + Text.digitValue c) rest
    else (n, c :: rest)

/-- The power of ten as a float, for exponents that floats have. -/
def powerOfTen (n : Nat) : Float :=
  Float.ofScientific 1 false n

/-- The largest power of ten that is a float. -/
def largestPower : Nat := 308

/-- Divides by a power of ten, by the largest one first while the rest is larger still. -/
def scaleDown (x : Float) (power : Nat) : Float :=
  if power ≤ largestPower then x / powerOfTen power
  else if x == 0 then x
  else scaleDown (x / powerOfTen largestPower) (power - largestPower)
termination_by power
decreasing_by simp only [largestPower] at *; omega

/-- The float times a power of ten; `none` beyond the range of floats. -/
def scale (x : Float) : Int → Option Float
  | .ofNat power =>
    if power ≤ largestPower then
      let y := x * powerOfTen power
      if y.isFinite then some y else none
    else if x == 0 then some x
    else none
  | .negSucc power => some (scaleDown x (power + 1))

/-- The largest whole number that is kept as such. -/
def largestWhole : Nat := 0xFFFFFFFFFFFFFFFF

/-- The largest exponent that is looked at. -/
def largestExponent : Nat := 0x7FFFFFFF

def withSign (negative : Bool) (x : Float) : Float :=
  if negative then -x else x

/-- The number that a numeral spells. A magnitude beyond all floats gives the number of digits at
the end of the numeral that need not be looked at to see this. -/
def value (n : Numeral) : Except Nat Number :=
  let (leading, dropped) := accumulate largestWhole 0 n.whole
  if n.fraction.isEmpty && n.exponent.isNone && dropped.isEmpty then
    if !n.negative then .ok (.natural leading)
    else if 0 < leading ∧ leading ≤ 0x8000000000000000 then .ok (.negative leading)
    else .ok (.real (-(Float.ofNat leading)))
  else
    let (significand, ignored) :=
      if n.fraction.isEmpty then (leading, []) else accumulate largestWhole leading n.fraction
    let start : Int := (dropped.length : Int) - ((n.fraction.length - ignored.length : Nat) : Int)
    let scaled (exponent : Int) : Except Nat Number :=
      match scale (Float.ofNat significand) exponent with
      | some x => .ok (.real (withSign n.negative x))
      | none => .error 0
    match n.exponent with
    | none => scaled start
    | some (down, digits) =>
      match accumulate largestExponent 0 digits with
      | (e, []) => scaled (if down then start - e else start + e)
      | (_, _ :: unread) =>
        if significand ≠ 0 ∧ !down then .error unread.length
        else .ok (.real (withSign n.negative 0))

end Numeral

end CanvasLint.Json
