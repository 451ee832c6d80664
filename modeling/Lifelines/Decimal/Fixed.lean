import Lifelines.Decimal.Binary

/-!
# Decimals with a given number of digits

A fraction is rounded to a number of places after the point, or to a number of
significant digits; half a unit goes to the even neighbour.

* `Decimal.roundDiv`: a rounded quotient;
* `Decimal.fixed`, `Decimal.scientific`, `Decimal.general`: the three ways to
  write a fraction.
-/

namespace Lifelines.Decimal

/-- A quotient rounded to the nearest integer, half a unit to the even one. -/
def roundDiv (num den : Nat) : Nat :=
  let quotient := num / den
  let twice := 2 * (num % den)
  if twice < den then quotient
  else if den < twice then quotient + 1
  else quotient + quotient % 2

/-- A fraction that is not negative. -/
structure Fraction where
  num : Nat
  den : Nat
  deriving DecidableEq

/-- The fraction of a binary number. -/
def Binary.toFraction (b : Binary) : Fraction where
  num := b.mantissa * Nat.pow 2 b.exponent.toNat
  den := Nat.pow 2 (-b.exponent).toNat

/-- The absolute value of a finite number. -/
def Fraction.ofFloat (x : Float) : Fraction :=
  ((magnitude? x).map Binary.toFraction).getD ⟨0, 1⟩

/-- The nearest fraction with `bits` significant bits. -/
def Fraction.toBits (f : Fraction) (bits : Nat) : Fraction :=
  if f.num = 0 then f
  else
    -- the exponent for which the quotient has about the right number of bits
    let e : Int := (Nat.log2 f.num : Int) - (Nat.log2 f.den : Int) - (bits : Int)
    let scaled (e : Int) : Nat × Nat :=
      (f.num * Nat.pow 2 (-e).toNat, f.den * Nat.pow 2 e.toNat)
    let fits (e : Int) : Bool := let (n, d) := scaled e; n / d < Nat.pow 2 bits
    let e := if fits e then e else if fits (e + 1) then e + 1 else e + 2
    let (n, d) := scaled e
    let m := roundDiv n d
    ⟨m * Nat.pow 2 e.toNat, Nat.pow 2 (-e).toNat⟩

/-- The digits of a number, at least so many. -/
def digitsOf (width n : Nat) : List Char :=
  let digits := Nat.toDigits 10 n
  List.replicate (width - digits.length) '0' ++ digits

/-- A fraction with a number of places after the point; the point is left out if
    there are none, unless it is kept. -/
def fixed (f : Fraction) (places : Nat) (keepPoint : Bool) : List Char :=
  let n := roundDiv (f.num * Nat.pow 10 places) f.den
  let digits := digitsOf (places + 1) n
  let whole := digits.take (digits.length - places)
  let point := if places = 0 && !keepPoint then [] else ['.']
  whole ++ point ++ digits.drop (digits.length - places)

/-- The power of ten of the first digit of a fraction other than zero. -/
def firstPower (f : Fraction) : Int :=
  let guess : Int := ((Nat.toDigits 10 f.num).length : Int) - (Nat.toDigits 10 f.den).length
  -- `10 ^ k ≤ f` holds for the guess or for the power below it
  if f.den * Nat.pow 10 guess.toNat ≤ f.num * Nat.pow 10 (-guess).toNat then guess
  else guess - 1

/-- The digits of a fraction, `places + 1` of them, and the power of the first one. -/
def significant (f : Fraction) (places : Nat) : List Char × Int :=
  if f.num = 0 then (List.replicate (places + 1) '0', 0)
  else
    let power := firstPower f
    let scale := (places : Int) - power
    let n := roundDiv (f.num * Nat.pow 10 scale.toNat) (f.den * Nat.pow 10 (-scale).toNat)
    if n < Nat.pow 10 (places + 1) then (digitsOf (places + 1) n, power)
    else (digitsOf (places + 1) (n / 10), power + 1)

/-- A power of ten: a letter, a sign and at least two digits. -/
def powerText (letter : Char) (power : Int) : List Char :=
  letter :: (if power < 0 then '-' else '+') :: digitsOf 2 power.natAbs

/-- A fraction with one digit before the point, a number of places after it and a
    power of ten. -/
def scientific (f : Fraction) (places : Nat) (keepPoint : Bool) (letter : Char) : List Char :=
  let (digits, power) := significant f places
  let point := if places = 0 && !keepPoint then [] else ['.']
  digits.take 1 ++ point ++ digits.drop 1 ++ powerText letter power

/-- Drops zeros at the end of what comes after a point, and then the point. -/
def dropZeros (text : List Char) : List Char :=
  if text.contains '.' then
    let kept := (text.reverse.dropWhile (· = '0')).reverse
    if kept.getLast? = some '.' then kept.dropLast else kept
  else text

/-- A fraction with a number of significant digits, written in the shorter of the two
    ways; zeros at the end are dropped unless they are kept. -/
def general (f : Fraction) (precision : Nat) (keepZeros : Bool) (letter : Char) : List Char :=
  let p := max precision 1
  let (digits, power) := significant f (p - 1)
  if power < -4 || (p : Int) ≤ power then
    let mantissa := digits.take 1 ++ (if p = 1 && !keepZeros then [] else ['.']) ++ digits.drop 1
    (if keepZeros then mantissa else dropZeros mantissa) ++ powerText letter power
  else
    let text := fixed f ((p : Int) - 1 - power).toNat keepZeros
    if keepZeros then text else dropZeros text

end Lifelines.Decimal
