import Lifelines.Decimal.Binary

/-!
# The shortest decimal that reads back

A binary number is identified by any decimal closer to it than to its
neighbours. The *grid* of exponent `k` holds the multiples of `10 ^ k`; the
coarser the grid, the fewer digits its points have. The shortest decimal lies
on the coarsest grid that has a point which reads back as the number, and is
the nearest such point.

All comparisons are between integers: a point of the grid and the ends of the
interval that reads back are first scaled by the same powers of two and ten.

* `Decimal.Scaled`: the interval and the grid on a common scale;
* `Decimal.shortest`: the shortest decimal.
-/

namespace Lifelines.Decimal

/-- Which of two equally near decimals is taken. -/
inductive Tie where
  /-- The larger one. -/
  | up
  /-- The one whose last digit is even. -/
  | toEven
  deriving DecidableEq, Repr

/-- The non-negative decimal `coefficient * 10 ^ exponent`. -/
structure Digits where
  /-- The digits, as one number. -/
  coefficient : Nat
  /-- The power of ten of the last digit. -/
  exponent : Int
  deriving DecidableEq, Repr

/-- A number, the interval around it that reads back as the number, and the
    distance of two neighbours on a grid, all in the same unit. -/
structure Scaled where
  /-- The lower end of the interval. -/
  low : Nat
  /-- The number. -/
  value : Nat
  /-- The upper end of the interval. -/
  high : Nat
  /-- The distance of two points of the grid. -/
  spacing : Nat
  /-- Whether the two ends read back as well. -/
  closed : Bool

/-- A number and the grid of exponent `k` on a common scale: an interval end is
    half a unit of the mantissa away, half of that where the lower neighbour is
    nearer, and the ends belong to numbers with an even mantissa. -/
def Binary.onGrid (b : Binary) (k : Int) : Scaled :=
  let twos := b.exponent - 2
  let scale := Nat.pow 2 twos.toNat * Nat.pow 10 (-k).toNat
  { low := (4 * b.mantissa - if b.narrowBelow then 1 else 2) * scale
    value := 4 * b.mantissa * scale
    high := (4 * b.mantissa + 2) * scale
    spacing := Nat.pow 10 k.toNat * Nat.pow 2 (-twos).toNat
    closed := b.mantissa % 2 == 0 }

namespace Scaled

/-- Whether the point `c` of the grid reads back as the number. -/
def contains (s : Scaled) (c : Nat) : Bool :=
  let point := c * s.spacing
  if s.closed then s.low ≤ point && point ≤ s.high else s.low < point && point < s.high

/-- The point of the grid that reads back as the number and is nearest to it.
    If there is any, one of the two points around the number is one. -/
def nearest? (s : Scaled) (tie : Tie) : Option Nat :=
  let below := s.value / s.spacing
  let above := below + 1
  match s.contains below, s.contains above with
  | false, false => none
  | true, false => some below
  | false, true => some above
  | true, true =>
    let down := s.value - below * s.spacing
    let up := above * s.spacing - s.value
    if down < up then some below
    else if up < down then some above
    else
      match tie with
      | .up => some above
      | .toEven => some (if below % 2 == 0 then below else above)

end Scaled

/-- An exponent whose grid is too coarse for `b`, or coarse enough: no point of a
    coarser grid reads back. The factor is the logarithm of two to base ten,
    rounded up. -/
def Binary.coarsest (b : Binary) : Int :=
  ((Nat.log2 b.mantissa + 1 : Int) + b.exponent) * 30103 / 100000 + 1

/-- The nearest point of the first grid that has one, from exponent `k`
    downwards, looking at no more than `fuel` grids. -/
def Binary.search (b : Binary) (tie : Tie) (k : Int) : (fuel : Nat) → Digits
  | 0 => ⟨(b.onGrid k).value / (b.onGrid k).spacing, k⟩
  | fuel + 1 =>
    match (b.onGrid k).nearest? tie with
    | some c => ⟨c, k⟩
    | none => b.search tie (k - 1) fuel

/-- The shortest decimal that reads back as `b`. Seventeen digits always suffice,
    and the first grids looked at have at most one digit. -/
def Binary.shortest (b : Binary) (tie : Tie) : Digits :=
  b.search tie b.coarsest 20

end Lifelines.Decimal
