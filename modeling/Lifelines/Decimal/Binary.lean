/-!
# Binary floating-point numbers taken apart

A finite 64-bit number other than zero is `mantissa * 2 ^ exponent` up to its
sign. Its two neighbours are one unit of the mantissa away, except that the
lower neighbour of a power of two is only half as far.

* `Decimal.magnitude?`: the parts of a number, `none` for zero, the infinities
  and the numbers that are not one;
* `Decimal.isNegative`: the sign bit, which zero has as well.
-/

namespace Lifelines.Decimal

/-- The positive number `mantissa * 2 ^ exponent`. -/
structure Binary where
  /-- The significant bits. -/
  mantissa : Nat
  /-- The power of two that they are scaled by. -/
  exponent : Int
  /-- Whether the lower neighbour is only half a unit away. -/
  narrowBelow : Bool
  deriving DecidableEq, Repr

/-- The sign bit of a number. -/
def isNegative (x : Float) : Bool :=
  Nat.pow 2 63 ≤ x.toBits.toNat

/-- The absolute value of a number, in parts. -/
def magnitude? (x : Float) : Option Binary :=
  let bits := x.toBits.toNat
  let fraction : Nat := bits % Nat.pow 2 52
  let scale : Nat := bits / Nat.pow 2 52 % Nat.pow 2 11
  if scale = 2047 then none
  else if scale = 0 then
    if fraction = 0 then none else some ⟨fraction, -1074, false⟩
  else some ⟨Nat.pow 2 52 + fraction, (scale : Int) - 1075, fraction = 0 && 1 < scale⟩

end Lifelines.Decimal
