import Lifelines.Decimal.Shortest

/-!
# Laying out the digits of a number

The shortest digits of a number are written either *positionally*, with zeros
up to the decimal point, or in *scientific* form, with one digit before the
point and a power of ten. A `Layout` records where a format changes from one to
the other and how it writes what is left.

* `Decimal.Layout.text`: a number written in a layout;
* `Decimal.plain`: never an exponent, no point after a whole number.
-/

namespace Lifelines.Decimal

/-- How numbers are written. -/
structure Layout where
  /-- Which of two equally near shortest decimals is written. -/
  tie : Tie
  /-- The powers of ten of the first digit that are written positionally. -/
  positional : Int → Bool
  /-- What a whole number written positionally ends in. -/
  wholeEnd : String
  /-- The sign of a power of ten that is not negative. -/
  plusSign : String

namespace Layout

/-- Digits with a decimal point after the first `n` of them, filled up with zeros
    on the side where they do not reach the point. -/
def withPoint (wholeEnd : String) (digits : List Char) (n : Int) : List Char :=
  if n ≤ 0 then '0' :: '.' :: (List.replicate (-n).toNat '0' ++ digits)
  else
    let k := n.toNat
    if digits.length ≤ k then
      digits ++ List.replicate (k - digits.length) '0' ++ wholeEnd.toList
    else digits.take k ++ '.' :: digits.drop k

/-- Digits in scientific form, `power` being the power of ten of the first one. -/
def scientific (layout : Layout) (digits : List Char) (power : Int) : List Char :=
  let mantissa :=
    match digits with
    | first :: second :: rest => first :: '.' :: second :: rest
    | ds => ds
  let exponent :=
    if power < 0 then '-' :: (toString power.natAbs).toList
    else layout.plusSign.toList ++ (toString power.natAbs).toList
  mantissa ++ 'e' :: exponent

/-- A decimal other than zero in a layout. -/
def ofDigits (layout : Layout) (d : Digits) : List Char :=
  let digits := (toString d.coefficient).toList
  let power := d.exponent + digits.length - 1
  if layout.positional power then withPoint layout.wholeEnd digits (power + 1)
  else layout.scientific digits power

/-- A number in a layout. -/
def text (layout : Layout) (x : Float) : String :=
  if x.isNaN then "NaN"
  else
    let sign := if isNegative x then "-" else ""
    if x.isInf then sign ++ "inf"
    else
      match magnitude? x with
      | none => sign ++ "0" ++ layout.wholeEnd
      | some b => sign ++ String.ofList (layout.ofDigits (b.shortest layout.tie))

end Layout

/-- Never an exponent, and no point after a whole number; of two equally near
    decimals the larger is written. -/
def plain : Layout where
  tie := .up
  positional := fun _ => true
  wholeEnd := ""
  plusSign := ""

end Lifelines.Decimal
