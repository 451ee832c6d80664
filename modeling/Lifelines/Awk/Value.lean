import Lifelines.Awk.Syntax
import Lifelines.Awk.Token

/-!
# Values

A value is a number or a text. A text that comes from the input counts as a number
if it looks like one, and a variable that has never been set is both.

* `Value.toNumber`, `Value.toText`: conversions;
* `Value.compare`: the order of values;
* `formatted`: values as a format says.
-/

namespace Lifelines.Awk

/-- A value. -/
inductive Value where
  | unset
  | number (x : Float)
  | text (t : Bytes)
  /-- A text from outside. -/
  | input (t : Bytes)
  deriving Inhabited

/-- The number at the start of a text, and what follows it. -/
def leadingNumber (text : Bytes) : Float × Bytes :=
  match Printf.readDecimal text with
  | some (negative, x, rest) => (Token.ofFormatNumber negative x, rest)
  | none => (0, text)

/-- The number that a text is, blanks around it; it begins with a digit, a sign or a point and
    ends with a digit or a point. -/
def numberIn? (text : Bytes) : Option Float :=
  let body := ((Bytes.trimStart text).reverse.dropWhile Bytes.isSpace).reverse
  let begins (c : Char) : Bool := c.isDigit || c = '+' || c = '-' || c = '.'
  let ends (c : Char) : Bool := c.isDigit || c = '.'
  if (body.head?.map begins).getD false && (body.getLast?.map ends).getD false then
    match Printf.readDecimal body with
    | some (negative, x, []) => some (Token.ofFormatNumber negative x)
    | _ => none
  else none

/-- The integer next to a number on the way to zero, if it is finite. -/
def truncated? (x : Float) : Option Int :=
  if x.isNaN || x.isInf then none
  else
    let f := Decimal.Fraction.ofFloat x
    let n : Int := f.num / f.den
    some (if x < 0 then -n else n)

/-- The integer next to a number on the way to zero; what is too large becomes the largest
    one. -/
def toInteger (x : Float) : Int :=
  match truncated? x with
  | some n =>
    if n < -Int.pow 2 63 then -(Int.pow 2 63 - 1)
    else if Int.pow 2 64 ≤ n then Int.pow 2 64 - 1 else n
  | none =>
    if x.isNaN then -Int.pow 2 63
    else if x < 0 then -(Int.pow 2 63 - 1) else Int.pow 2 64 - 1

namespace Value

/-- A value as a number. -/
def toNumber : Value → Float
  | unset => 0
  | number x => x
  | text t | input t => (leadingNumber t).1

/-- A text from outside that looks like a number as that number. -/
def resolved : Value → Value
  | input t =>
    match numberIn? t with
    | some x => .number x
    | none => .text t
  | v => v

end Value

/-! ### Formats -/

/-- The number as a conversion takes it. -/
def magnitudeOf (x : Float) : Bool × FormatNumber :=
  if x.isNaN then (true, .notNumber)
  else if x.isInf then (x < 0, .infinite)
  else (Decimal.isNegative x, .finite (Decimal.Fraction.ofFloat x))

/-- A number as a conversion for integers writes it. -/
def integerText (c : Conversion) (x : Float) : Bytes :=
  let n := toInteger x
  if c.letter = 'd' || c.letter = 'i' then c.integer n
  else c.unsigned (n % Int.pow 2 64).toNat

/-- What a format comes to: a text, and perhaps a complaint about the format. -/
structure Formatted where
  text : Bytes := []
  complaint : Option Bytes := none

/-- A value as a text, numbers that are no integers being written as a format with one
    conversion for them says. -/
def numberText (format : Bytes) (x : Float) : Bytes :=
  match truncated? x with
  | some n =>
    if Float.ofInt n == x && -Int.pow 2 63 ≤ n && n ≤ Int.pow 2 64 then
      Bytes.ofInt (min n (Int.pow 2 64 - 1))
    else written
  | none => written
where
  /-- The number in the format. -/
  written : Bytes :=
    let start := format.takeWhile (· ≠ '%')
    match Conversion.read? (format.drop (start.length + 1)) with
    | some (c, rest) =>
      let (negative, magnitude) := magnitudeOf x
      start ++ (if "diouxX".toList.contains c.letter then integerText c x else c.float negative magnitude) ++ rest
    | none => format

namespace Value

/-- A value as a text, a format being given for numbers that are no integers. -/
def toText (format : Bytes) : Value → Bytes
  | unset => []
  | number x => numberText format x
  | text t | input t => t

/-- Whether a value counts as true. -/
def isTrue (v : Value) : Bool :=
  match v.resolved with
  | unset => false
  | number x => x != 0
  | text t | input t => !t.isEmpty

/-- The order of numbers and of texts. -/
def holds (op : Comparison) (less equal : Bool) : Bool :=
  match op with
  | .less => less
  | .lessEqual => less || equal
  | .equal => equal
  | .notEqual => !equal
  | .greater => !less && !equal
  | .greaterEqual => !less

/-- Compares values: as numbers, unless one of them is a text. -/
def compare (format : Bytes) (op : Comparison) (a b : Value) : Bool :=
  let asTexts : Bool :=
    let s := a.toText format
    let t := b.toText format
    holds op (Bytes.before s t) (s = t)
  match a.resolved, b.resolved with
  | text _, _ | _, text _ | input _, _ | _, input _ => asTexts
  | x, y => holds op (x.toNumber < y.toNumber) (x.toNumber == y.toNumber)

end Value

/-- A value as a conversion writes it, if its letter is known. -/
def converted? (numberFormat : Bytes) (c : Conversion) (v : Value) : Option Bytes :=
  match c.letter with
  | 'd' | 'i' | 'o' | 'x' | 'X' | 'u' => some (integerText c v.toNumber)
  | 'e' | 'f' | 'g' | 'E' | 'F' | 'G' =>
    let (negative, magnitude) := magnitudeOf v.toNumber
    some (c.float negative magnitude)
  | 's' => some (c.text (v.toText numberFormat))
  | 'c' =>
    let c' : Char :=
      match v.resolved with
      | .number x => Char.ofNat ((toInteger x) % 256).toNat
      | v => (v.toText numberFormat).headD '\x00'
    some (c.pad [c'])
  | _ => none

/-- Values as a format says; `caller` is the function that is blamed. A zero byte ends a
    format. -/
def formatted (numberFormat : Bytes) (caller : String) (format : Bytes) (values : List Value) : Formatted :=
  go (format.length + 1) 1 (format.takeWhile (· ≠ '\x00')) values
where
  /-- The function and the format. -/
  blamed : Bytes :=
    caller.toList ++ "(\"".toList ++ format ++ "\")".toList
  /-- Complains that a value is missing. -/
  missing : Formatted :=
    { complaint := some ("not enough arguments passed to ".toList ++ blamed) }
  /-- Fills in a width or a precision. -/
  fill (count : FormatCount) (values : List Value) : Option (FormatCount × List Value) :=
    match count, values with
    | .next, v :: rest => some (.given (toInteger v.toNumber).natAbs, rest)
    | .next, [] => none
    | count, values => some (count, values)
  /-- Reads on in the format. -/
  go : (fuel : Nat) → (number : Nat) → Bytes → List Value → Formatted
    | 0, _, _, _ => {}
    | _, _, [], _ => {}
    | fuel + 1, number, '%' :: rest, values =>
      match rest with
      | '%' :: rest =>
        let after := go fuel number rest values
        { after with text := '%' :: after.text }
      | _ =>
        match Conversion.readPast? ['h', 'l'] rest with
        | none => missing
        | some (c, rest) =>
          match (do
            let (width, values) ← fill c.width values
            let (precision, values) ← fill c.precision values
            let v ← values.head?
            return (({ c with width := width, precision := precision } : Conversion), v, values.drop 1) :
              Option (Conversion × Value × List Value)) with
          | none => missing
          | some (c, v, values) =>
            match converted? numberFormat c v with
            | some text =>
              let after := go fuel (number + 1) rest values
              { after with text := text ++ after.text }
            | none =>
              { complaint := some ("improper conversion(number ".toList ++ Bytes.ofNat number ++ ") in ".toList ++ blamed) }
    | fuel + 1, number, c :: rest, values =>
      let plain := (c :: rest).takeWhile (· ≠ '%')
      let after := go fuel number ((c :: rest).drop plain.length) values
      { after with text := plain ++ after.text }

end Lifelines.Awk
