import Lifelines.Decimal.Fixed
import Lifelines.Text.Bytes

/-!
# Conversions of a format

A conversion of a format says how a value is written: in how many columns, on
which side the filling goes, with how many digits and in which base.

* `Conversion.read?`: a conversion read from what follows the percent sign;
* `Conversion.text`, `Conversion.integer`, `Conversion.unsigned`,
  `Conversion.float`: values as it writes them.
-/

namespace Lifelines

/-- A number that a format gives or that it takes from the next value. -/
inductive FormatCount where
  | none
  | given (n : Nat)
  | next
  deriving DecidableEq

/-- A conversion. -/
structure Conversion where
  flags : List Char := []
  width : FormatCount := .none
  precision : FormatCount := .none
  letter : Char
  deriving DecidableEq

/-- A finite number or one that is none. -/
inductive FormatNumber where
  | finite (f : Decimal.Fraction)
  | infinite
  | notNumber

namespace Conversion

/-- Reads a number or a star. -/
def readCount (text : Bytes) : FormatCount × Bytes :=
  match text with
  | '*' :: rest => (.next, rest)
  | _ =>
    let digits := text.takeWhile Char.isDigit
    match Bytes.toNat? digits with
    | some n => (.given n, text.drop digits.length)
    | none => (.none, text)

/-- Reads a conversion; some letters may stand before the one that counts and mean
    nothing. -/
def readPast? (idle : List Char) (text : Bytes) : Option (Conversion × Bytes) :=
  let isFlag (c : Char) : Bool := "-+ #0'".toList.contains c
  let flags := text.takeWhile isFlag
  let (width, rest) := readCount (text.drop flags.length)
  let (precision, rest) : FormatCount × Bytes :=
    match rest with
    | '.' :: rest =>
      match readCount rest with
      | (.none, rest) => (.given 0, rest)
      | other => other
    | rest => (.none, rest)
  match rest.dropWhile idle.contains with
  | [] => none
  | letter :: rest => some (⟨flags, width, precision, letter⟩, rest)

/-- Reads a conversion. The letters that tell the size of a value mean nothing. -/
def read? (text : Bytes) : Option (Conversion × Bytes) :=
  readPast? "hlLjzt".toList text

/-- The text of a conversion, as it stands in a format. -/
def written (text rest : Bytes) : Bytes :=
  '%' :: text.take (text.length - rest.length)

/-- Whether a flag is given. -/
def has (c : Conversion) (flag : Char) : Bool :=
  c.flags.contains flag

/-- Fills a text up to the width. -/
def pad (c : Conversion) (text : Bytes) : Bytes :=
  match c.width with
  | .given n => if c.has '-' then Bytes.padRight n text else Bytes.padLeft n ' ' text
  | _ => text

/-- Fills a number up to the width, with zeros after its sign if the flags say so. -/
def padNumber (c : Conversion) (zeros : Bool) (sign digits : Bytes) : Bytes :=
  match c.width with
  | .given n =>
    if c.has '-' then Bytes.padRight n (sign ++ digits)
    else if zeros && c.has '0' then sign ++ Bytes.padLeft (n - sign.length) '0' digits
    else Bytes.padLeft n ' ' (sign ++ digits)
  | _ => sign ++ digits

/-- A text, cut to the precision. -/
def text (c : Conversion) (value : Bytes) : Bytes :=
  match c.precision with
  | .given n => c.pad (value.take n)
  | _ => c.pad value

/-- The sign of a number. -/
def sign (c : Conversion) (negative : Bool) : Bytes :=
  if negative then ['-'] else if c.has '+' then ['+'] else if c.has ' ' then [' '] else []

/-- The digits of a number, at least as many as the precision says; there are none for
    zero if it says zero. -/
def digits (c : Conversion) (base n : Nat) : Bytes :=
  match c.precision with
  | .given p =>
    if p = 0 && n = 0 then []
    else
      let ds := Nat.toDigits base n
      List.replicate (p - ds.length) '0' ++ ds
  | _ => Nat.toDigits base n

/-- An integer in decimal digits. -/
def integer (c : Conversion) (n : Int) : Bytes :=
  c.padNumber (c.precision = .none) (c.sign (n < 0)) (c.digits 10 n.natAbs)

/-- A number in the base that the letter says. -/
def unsigned (c : Conversion) (n : Nat) : Bytes :=
  let zeros := c.precision = .none
  match c.letter with
  | 'o' =>
    let ds := c.digits 8 n
    c.padNumber zeros [] (if c.has '#' && ds.head? ≠ some '0' then '0' :: ds else ds)
  | 'x' => c.padNumber zeros (if c.has '#' && n ≠ 0 then ['0', 'x'] else []) (c.digits 16 n)
  | 'X' =>
    c.padNumber zeros (if c.has '#' && n ≠ 0 then ['0', 'X'] else []) (Bytes.toUpper (c.digits 16 n))
  | _ => c.padNumber zeros [] (c.digits 10 n)

/-- A number with a point or a power of ten, as the letter says. -/
def float (c : Conversion) (negative : Bool) (x : FormatNumber) : Bytes :=
  let sign := c.sign negative
  let upper := c.letter.isUpper
  let cased (t : Bytes) : Bytes := if upper then Bytes.toUpper t else t
  match x with
  | .infinite => c.pad (sign ++ cased "inf".toList)
  | .notNumber => c.pad (sign ++ cased "nan".toList)
  | .finite f =>
    let precision :=
      match c.precision with
      | .given n => n
      | _ => 6
    let e := if upper then 'E' else 'e'
    let body :=
      match c.letter.toLower with
      | 'e' => Decimal.scientific f precision (c.has '#') e
      | 'g' => Decimal.general f precision (c.has '#') e
      | _ => Decimal.fixed f precision (c.has '#')
    c.padNumber true sign body

end Conversion

end Lifelines
