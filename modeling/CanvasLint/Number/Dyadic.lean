/-!
Finite floats as whole numbers scaled by a power of two. Every question about the decimal text
of a float, or about the whole number nearest to it, is settled here in exact arithmetic on the
significand and the exponent, so no answer depends on the rounding of an intermediate result.
-/
namespace CanvasLint.Number

/-- A power of two. -/
def twoTo (power : Nat) : Nat :=
  Nat.pow 2 power

/-- A power of ten. -/
def tenTo (power : Nat) : Nat :=
  Nat.pow 10 power

/-- The value `±significand · 2 ^ exponent`. The sign is kept apart because zero has one too. -/
structure Dyadic where
  negative : Bool
  significand : Nat
  exponent : Int
deriving DecidableEq, Repr

namespace Dyadic

/-- The bit in front of the stored ones, which all but the smallest floats have. -/
def hiddenBit : Nat := twoTo 52

/-- The significand and exponent that the bits of a finite float stand for; infinities and the
not-a-number values have none. A zero exponent field marks the numbers without a hidden bit. -/
def ofFloat? (x : Float) : Option Dyadic :=
  let bits := x.toBits.toNat
  let negative := decide (twoTo 63 ≤ bits)
  let field : Nat := bits / hiddenBit % 2048
  let fraction := bits % hiddenBit
  if field = 2047 then none
  else if field = 0 then some ⟨negative, fraction, -1074⟩
  else some ⟨negative, hiddenBit + fraction, (field : Int) - 1075⟩

/-- The whole number nearest to the magnitude, a half going up. -/
def nearestNat (d : Dyadic) : Nat :=
  match d.exponent with
  | .ofNat e => d.significand * twoTo e
  | .negSucc e => (2 * d.significand + twoTo (e + 1)) / twoTo (e + 2)

/-- The magnitude as a fraction of whole numbers. -/
def fraction (d : Dyadic) : Nat × Nat :=
  match d.exponent with
  | .ofNat e => (d.significand * twoTo e, 1)
  | .negSucc e => (d.significand, twoTo (e + 1))

end Dyadic

/-- The float nearest to a whole number that stands for an already whole magnitude, with the
given sign; zero keeps its sign. -/
def signed (negative : Bool) (magnitude : Nat) : Float :=
  if negative then -(Float.ofNat magnitude) else Float.ofNat magnitude

/-- The nearest whole value, halves away from zero; what is not finite stays as it is, and so
does a float without a fraction. -/
def roundHalfAway (x : Float) : Float :=
  match Dyadic.ofFloat? x with
  | none => x
  | some d => signed d.negative d.nearestNat

/-- The nearest of the whole numbers 0 to 255, halves up; not-a-number counts as 0. -/
def nearestByte (x : Float) : UInt8 :=
  match Dyadic.ofFloat? x with
  | none => if x > 0 then 255 else 0
  | some d => if d.negative then 0 else (min d.nearestNat 255).toUInt8

/-- The value with two decimals nearest to `x`, as far as scaling by a hundred in floats finds it. -/
def toHundredths (x : Float) : Float :=
  roundHalfAway (x * 100) / 100

end CanvasLint.Number
