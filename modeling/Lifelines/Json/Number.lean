import Lifelines.Decimal.Layout

/-!
# JSON numbers

A *numeral* is a JSON number as it stands in a text: a sign, digits before the
point, perhaps digits after it and a power of ten.

The value of a numeral is found in one multiplication or division of
floating-point numbers, and may so differ from the nearest number in its last
bit. Digits are collected into an integer of 64 bits as long as it holds them;
those before the point that do not fit raise the power of ten instead, those
after the point are dropped. The integer is then scaled by the power of ten.

* `Json.readNumeral`: the numeral at the start of a text;
* `Json.Numeral.value?`: its value, `none` if that is too large for a number;
* `Json.numberText`: a number as it is written in JSON.
-/

namespace Lifelines.Json

/-- A JSON number as it is written. -/
structure Numeral where
  /-- Whether a minus sign stands in front. -/
  negative : Bool
  /-- The digits before the point. -/
  whole : List Nat
  /-- The digits after the point. -/
  fraction : List Nat
  /-- The power of ten: its sign and its digits. -/
  power : Option (Bool × List Nat)
  deriving DecidableEq, Repr

/-- The value of a decimal digit. -/
def digit? (c : Char) : Option Nat :=
  if '0' ≤ c ∧ c ≤ '9' then some (c.toNat - '0'.toNat) else none

/-- The digits that a text starts with, and what follows them. -/
def readDigits : List Char → List Nat × List Char
  | [] => ([], [])
  | c :: rest =>
    match digit? c with
    | some n =>
      let (ns, rest') := readDigits rest
      (n :: ns, rest')
    | none => ([], c :: rest)

/-- The digits before the point: a single zero, or digits that do not start with
    zero. -/
def readWhole (cs : List Char) : Option (List Nat × List Char) :=
  match readDigits cs with
  | ([], _) => none
  | (0 :: _ :: _, _) => none
  | found => some found

/-- The point and the digits after it, of which there must be one, or nothing. -/
def readFraction : List Char → Option (List Nat × List Char)
  | '.' :: cs =>
    match readDigits cs with
    | ([], _) => none
    | found => some found
  | cs => some ([], cs)

/-- The sign of a power of ten, and whether it is negative. -/
def readPowerSign : List Char → Bool × List Char
  | '+' :: cs => (false, cs)
  | '-' :: cs => (true, cs)
  | cs => (false, cs)

/-- The power of ten, which must have a digit, or nothing. -/
def readPower : List Char → Option (Option (Bool × List Nat) × List Char)
  | c :: cs =>
    if c = 'e' ∨ c = 'E' then
      let (negative, cs) := readPowerSign cs
      match readDigits cs with
      | ([], _) => none
      | (digits, rest) => some (some (negative, digits), rest)
    else some (none, c :: cs)
  | [] => some (none, [])

/-- The numeral at the start of a text, and what follows it. -/
def readNumeral (cs : List Char) : Option (Numeral × List Char) := do
  let (negative, cs) :=
    match cs with
    | '-' :: rest => (true, rest)
    | _ => (false, cs)
  let (whole, cs) ← readWhole cs
  let (fraction, cs) ← readFraction cs
  let (power, cs) ← readPower cs
  return (⟨negative, whole, fraction, power⟩, cs)

/-- The largest integer of 64 bits. -/
def significandLimit : Nat := Nat.pow 2 64 - 1

/-- Appends digits to an integer as long as it fits into 64 bits. Gives the integer
    and how many digits were left over. -/
def absorb (n : Nat) : List Nat → Nat × Nat
  | [] => (n, 0)
  | d :: ds => if n * 10 + d ≤ significandLimit then absorb (n * 10 + d) ds else (n, ds.length + 1)

/-- The number that digits stand for. -/
def ofDigits (digits : List Nat) : Nat :=
  digits.foldl (fun n d => n * 10 + d) 0

/-- A power of ten as the nearest number. -/
def powerOfTen (n : Nat) : Float :=
  Float.ofScientific 1 false n

/-- Divides by `10 ^ n`, in steps that are themselves numbers. -/
def scaleDown (x : Float) (n : Nat) : Float :=
  if n ≤ 308 then x / powerOfTen n
  else if x == 0.0 then x
  else scaleDown (x / powerOfTen 308) (n - 308)
termination_by n

/-- Multiplies by `10 ^ n`, unless the result is too large. -/
def scaleUp? (x : Float) (n : Nat) : Option Float :=
  if n ≤ 308 then
    let y := x * powerOfTen n
    if y.isInf then none else some y
  else if x == 0.0 then some x
  else none

/-- The largest power of ten that is looked at; one beyond it leaves only zero. -/
def powerLimit : Nat := Nat.pow 2 31 - 1

namespace Numeral

/-- The absolute value of a numeral. -/
def magnitude? (n : Numeral) : Option Float :=
  let (head, raised) := absorb 0 n.whole
  let (significand, dropped) := absorb head n.fraction
  let shift : Int := (raised : Int) - (n.fraction.length - dropped : Nat)
  let x := Float.ofNat significand
  let scale (shift : Int) : Option Float :=
    if 0 ≤ shift then scaleUp? x shift.toNat else some (scaleDown x (-shift).toNat)
  match n.power with
  | none => scale shift
  | some (negative, digits) =>
    let power := ofDigits digits
    if powerLimit < power then
      if significand = 0 ∨ negative then some 0.0 else none
    else scale (if negative then shift - power else shift + power)

/-- The value of a numeral; zero keeps its sign. -/
def value? (n : Numeral) : Option Float :=
  n.magnitude?.map fun x => if n.negative then -x else x

end Numeral

/-- Positional from `0.00001` up to sixteen digits before the point, a whole number
    with one zero after the point; otherwise scientific with a signed power. Of
    two equally near decimals the even one is written. -/
def numberLayout : Decimal.Layout where
  tie := .toEven
  positional := fun power => -5 ≤ power && power < 16
  wholeEnd := ".0"
  plusSign := "+"

/-- A number as it is written in JSON, which has no infinite numbers. -/
def numberText (x : Float) : String :=
  if x.isFinite then numberLayout.text x else "null"

end Lifelines.Json
