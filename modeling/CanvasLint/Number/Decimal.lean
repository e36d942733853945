import CanvasLint.Number.Dyadic

/-!
Decimals that stand for a float. `Decimal.shortest` is the decimal with the fewest digits among
those that read back as the float, and of these the one nearest to it: on the coarsest grid of
powers of ten that has a point among the reals that round to the float, it takes the nearer of
the two neighbours of the float. `Decimal.places` rounds to a fixed number of decimals.
-/
namespace CanvasLint.Number

/-- The magnitude `digits · 10 ^ exponent`. -/
structure Decimal where
  digits : Nat
  exponent : Int
deriving DecidableEq, Repr

/-- Which of two equally near decimals is taken. -/
inductive Tie where
  | up
  | even
deriving DecidableEq, Repr

/-- The quotient rounded to the nearest whole number. -/
def roundDiv (numerator denominator : Nat) (tie : Tie) : Nat :=
  let quotient := numerator / denominator
  let twice := 2 * (numerator % denominator)
  if twice < denominator then quotient
  else if denominator < twice then quotient + 1
  else match tie with
    | .up => quotient + 1
    | .even => quotient + quotient % 2

namespace Dyadic

/-- The reals that round to a float, in quarters of its last place: `low` and `high` around
`value`, with the ends included when the significand is even. At a power of two the numbers
below lie half as far apart, so the lower end is nearer. -/
structure Span where
  low : Nat
  value : Nat
  high : Nat
  closed : Bool

def span (d : Dyadic) : Span :=
  let m := d.significand
  let low := if m = hiddenBit ∧ d.exponent ≠ -1074 then 4 * m - 1 else 4 * m - 2
  ⟨low, 4 * m, 4 * m + 2, m % 2 = 0⟩

end Dyadic

/-- One grid of decimals laid over a span: `step` is the distance of two of its points and the
ends of the span are scaled to the same unit. -/
structure Grid where
  step : Nat
  low : Nat
  value : Nat
  high : Nat
  closed : Bool

namespace Grid

def ofSpan (s : Dyadic.Span) (binary decimal : Int) : Grid :=
  let scale := tenTo (-decimal).toNat * twoTo binary.toNat
  ⟨tenTo decimal.toNat * twoTo (-binary).toNat, s.low * scale, s.value * scale, s.high * scale, s.closed⟩

/-- The point with this number lies among the reals that read back. -/
def holds (g : Grid) (point : Nat) : Bool :=
  let place := point * g.step
  if g.closed then g.low ≤ place && place ≤ g.high else g.low < place && place < g.high

/-- The number of the nearest point that reads back, if the grid has one. Only the neighbours of
the value can be it: a point further off reads back only if the neighbour on its side does. -/
def nearest? (g : Grid) (tie : Tie) : Option Nat :=
  let below := g.value / g.step
  let nearer := roundDiv g.value g.step tie
  if 0 < nearer && g.holds nearer then some nearer
  else if 0 < below && g.holds below then some below
  else if g.holds (below + 1) then some (below + 1)
  else none

end Grid

namespace Decimal

/-- Tries the grid of `10 ^ exponent` and then finer ones. -/
def search (s : Dyadic.Span) (binary : Int) (tie : Tie) : Nat → Int → Decimal
  | 0, exponent => ⟨0, exponent⟩
  | more + 1, exponent =>
    match (Grid.ofSpan s binary exponent).nearest? tie with
    | some digits => ⟨digits, exponent⟩
    | none => search s binary tie more (exponent - 1)

/-- The shortest decimal that reads back as the float, the nearest one if several are shortest.
The search starts above the first digit and needs at most seventeen digits. -/
def shortest (d : Dyadic) (tie : Tie) : Decimal :=
  if d.significand = 0 then ⟨0, 0⟩
  else
    let bits : Int := (d.significand.log2 : Int) + d.exponent
    search d.span (d.exponent - 2) tie 24 (bits * 30103 / 100000 + 2)

/-- The magnitude in units of `10 ^ -places`, rounded to the nearest, halves to even. -/
def places (d : Dyadic) (places : Nat) : Nat :=
  let (numerator, denominator) := d.fraction
  roundDiv (numerator * tenTo places) denominator .even

end Decimal

end CanvasLint.Number
