import Lifelines.Text.Conversion
import Lifelines.Text.WordQuotes

/-!
# Formatted output

What `echo` and `printf` print. There are three kinds of both: those of the
plain shell, those of the extended shell, and the programs of the same name;
they know different escapes and find different words for what is wrong.

* `Printf.echo`, `Printf.printf`.
-/

namespace Lifelines.Printf

/-- Which kind of `echo` and `printf` it is. -/
inductive Kind where
  | plainShell
  | extendedShell
  | program
  deriving DecidableEq

/-- What is printed, what is complained about, the status, and whether the output was
    ended. -/
structure Printout where
  text : Bytes := []
  complaints : List Bytes := []
  status : Nat := 0
  ended : Bool := false

/-- What a printout and the one after it come to. -/
def Printout.append (a b : Printout) : Printout where
  text := a.text ++ b.text
  complaints := a.complaints ++ b.complaints
  status := max a.status b.status
  ended := b.ended

/-! ### Escapes -/

/-- Where escapes are read. -/
inductive Place where
  | format
  | echoed
  /-- A value for the conversion `b`. -/
  | value
  deriving DecidableEq

/-- The byte for a letter after a backslash. -/
def simpleEscape? : Char → Option Char
  | '\\' => some '\\'
  | 'a' => some '\x07'
  | 'b' => some '\x08'
  | 'f' => some '\x0c'
  | 'n' => some '\n'
  | 'r' => some '\r'
  | 't' => some '\t'
  | 'v' => some '\x0b'
  | _ => none

/-- Whether a character is an octal digit. -/
def isOctal (c : Char) : Bool :=
  '0' ≤ c && c ≤ '7'

/-- The value of a digit in bases up to sixteen. -/
def digitValue (c : Char) : Nat :=
  if c.isDigit then c.toNat - '0'.toNat else c.toLower.toNat - 'a'.toNat + 10

/-- Whether a character is a digit in base sixteen. -/
def isHex (c : Char) : Bool :=
  c.isDigit || ('a' ≤ c.toLower && c.toLower ≤ 'f')

/-- The number that digits stand for. -/
def numberOf (base : Nat) (digits : Bytes) : Nat :=
  digits.foldl (fun n c => n * base + digitValue c) 0

/-- At most `limit` digits at the start of a text, and what follows them. -/
def takeDigits (limit : Nat) (isDigit : Char → Bool) (text : Bytes) : Bytes × Bytes :=
  let digits := (text.take limit).takeWhile isDigit
  (digits, text.drop digits.length)

/-- The byte with a number. -/
def byte (n : Nat) : Char :=
  Char.ofNat (n % 256)

/-- What an escape stands for, read from what follows the backslash: the bytes, the
    rest, and whether it ends the output; `none` if the backslash stands for
    itself. -/
def escape? (kind : Kind) (place : Place) (text : Bytes) : Option (Bytes × Bytes × Bool) :=
  let rich := kind ≠ .plainShell
  match text with
  | [] => none
  | c :: rest =>
    let octal (limit : Nat) (text : Bytes) : Option (Bytes × Bytes × Bool) :=
      let (digits, after) := takeDigits limit isOctal text
      some ([byte (numberOf 8 digits)], after, false)
    if c = 'c' && (place ≠ .format || kind = .program) then some ([], [], true)
    else if c = '0' && place ≠ .format then octal 3 rest
    else if isOctal c && (place = .format || (place = .value && rich)) then octal 3 (c :: rest)
    else if (c = 'e' || (c = 'E' && kind = .extendedShell)) && rich then some (['\x1b'], rest, false)
    else if c = '"' && rich && place ≠ .echoed then some (['"'], rest, false)
    else if (c = '\'' || c = '?') && kind = .extendedShell && place ≠ .echoed then
      some ([c], rest, false)
    else if c = 'x' && rich then
      match takeDigits 2 isHex rest with
      | ([], _) => none
      | (digits, after) => some ([byte (numberOf 16 digits)], after, false)
    else if (c = 'u' || c = 'U') && rich then
      match takeDigits (if c = 'u' then 4 else 8) isHex rest with
      | ([], _) => none
      | (digits, after) =>
        some (Bytes.ofString (String.ofList [Char.ofNat (numberOf 16 digits)]), after, false)
    else (simpleEscape? c).map fun b => ([b], rest, false)

/-- Replaces the escapes of a text; says whether one of them ended the output. -/
def unescape (kind : Kind) (place : Place) : (fuel : Nat) → Bytes → Bytes × Bool
  | 0, _ | _, [] => ([], false)
  | fuel + 1, '\\' :: text =>
    match escape? kind place text with
    | some (bytes, _, true) => (bytes, true)
    | some (bytes, rest, false) =>
      let (more, ended) := unescape kind place fuel rest
      (bytes ++ more, ended)
    | none =>
      let (more, ended) := unescape kind place fuel text
      ('\\' :: more, ended)
  | fuel + 1, c :: text =>
    let (more, ended) := unescape kind place fuel text
    (c :: more, ended)

/-! ### Echo -/

/-- The options at the start of the words of `echo`: whether there is a newline at the
    end, and whether escapes are read. -/
def echoOptions (kind : Kind) (newline escapes : Bool) : List Bytes → Bool × Bool × List Bytes
  | word :: rest =>
    match kind, word with
    | .plainShell, ['-', 'n'] => (false, escapes, rest)
    | .plainShell, _ => (newline, escapes, word :: rest)
    | _, '-' :: c :: cs =>
      if (c :: cs).all fun c => c = 'n' || c = 'e' || c = 'E' then
        let newline := newline && !(c :: cs).contains 'n'
        let escapes := (c :: cs).foldl
          (fun escapes c => if c = 'e' then true else if c = 'E' then false else escapes) escapes
        echoOptions kind newline escapes rest
      else (newline, escapes, word :: rest)
    | _, _ => (newline, escapes, word :: rest)
  | [] => (newline, escapes, [])

/-- What `echo` prints. -/
def echo (kind : Kind) (args : List Bytes) : Bytes :=
  let (newline, escapes, words) := echoOptions kind true (kind = .plainShell) args
  let line := Bytes.join [' '] words
  let (text, ended) :=
    if escapes then unescape kind .echoed (line.length + 1) line else (line, false)
  if newline && !ended then text ++ ['\n'] else text

/-! ### Numbers -/

/-- The number at the start of a text: its sign, its digits in base eight, ten or
    sixteen; and what follows. -/
def readInteger (text : Bytes) : Option (Int × Bytes) :=
  let text := Bytes.trimStart text
  let (negative, text) :=
    match text with
    | '-' :: rest => (true, rest)
    | '+' :: rest => (false, rest)
    | text => (false, text)
  let (base, isDigit, body) : Nat × (Char → Bool) × Bytes :=
    match text with
    | '0' :: x :: d :: rest =>
      if (x = 'x' || x = 'X') && isHex d then (16, isHex, d :: rest) else (8, isOctal, text)
    | '0' :: _ => (8, isOctal, text)
    | _ => (10, Char.isDigit, text)
  let digits := body.takeWhile isDigit
  if digits.isEmpty then none
  else
    let n : Int := numberOf base digits
    some (if negative then -n else n, body.drop digits.length)

/-- The largest signed and unsigned numbers. -/
def clampSigned (n : Int) : Int :=
  max (-Int.pow 2 63) (min (Int.pow 2 63 - 1) n)

/-- A number as 64 bits without a sign. -/
def toUnsigned (n : Int) : Nat :=
  if n < 0 then (n % Int.pow 2 64).toNat else min n.toNat (Nat.pow 2 64 - 1)

/-- A decimal at the start of a text: its sign, its value, and what follows. -/
def readDecimal (text : Bytes) : Option (Bool × FormatNumber × Bytes) :=
  let text := Bytes.trimStart text
  let (negative, text) :=
    match text with
    | '-' :: rest => (true, rest)
    | '+' :: rest => (false, rest)
    | text => (false, text)
  let word (n : Nat) : String := String.ofList (Bytes.toLower (text.take n))
  if word 8 = "infinity" then some (negative, .infinite, text.drop 8)
  else if word 3 = "inf" then some (negative, .infinite, text.drop 3)
  else if word 3 = "nan" then some (negative, .notNumber, text.drop 3)
  else
    match text with
    | '0' :: x :: after =>
      if x = 'x' || x = 'X' then
        match scaled 16 'p' negative after with
        | some result => some result
        | none => decimal negative text
      else decimal negative text
    | _ => decimal negative text
where
  /-- Reads decimal digits with a point and a power of ten. -/
  decimal (negative : Bool) (text : Bytes) : Option (Bool × FormatNumber × Bytes) :=
    scaled 10 'e' negative text
  /-- Reads digits to a base with a point, and a power after a letter: of ten, or of two for
      other bases. -/
  scaled (base : Nat) (letter : Char) (negative : Bool) (text : Bytes) : Option (Bool × FormatNumber × Bytes) :=
    let isDigit : Char → Bool := if base = 10 then Char.isDigit else isHex
    let whole := text.takeWhile isDigit
    let rest := text.drop whole.length
    let (places, rest) :=
      match rest with
      | '.' :: after =>
        let places := after.takeWhile isDigit
        if whole.isEmpty && places.isEmpty then ([], rest) else (places, after.drop places.length)
      | rest => ([], rest)
    if whole.isEmpty && places.isEmpty then none
    else
      let n := numberOf base (whole ++ places)
      let (power, rest) : Int × Bytes :=
        match rest with
        | e :: after =>
          if e.toLower = letter then
            let (down, digits) : Bool × Bytes :=
              match after with
              | '-' :: ds => (true, ds)
              | '+' :: ds => (false, ds)
              | ds => (false, ds)
            match Bytes.toNat? (digits.takeWhile Char.isDigit) with
            | some p => (if down then -(p : Int) else p, digits.dropWhile Char.isDigit)
            | none => (0, rest)
          else (0, rest)
        | [] => (0, [])
      let limited (p : Int) : Int := max (-5000) (min 5000 p)
      if base = 10 then
        let scale := limited (power - places.length)
        some (negative, .finite ⟨n * Nat.pow 10 scale.toNat, Nat.pow 10 (-scale).toNat⟩, rest)
      else
        let scale := max (-20000) (min 20000 (power - 4 * places.length))
        some (negative, .finite ⟨n * Nat.pow 2 scale.toNat, Nat.pow 2 (-scale).toNat⟩, rest)

/-! ### Printf -/

/-- The words about a value that is no number, or not only a number. -/
def numberComplaint (kind : Kind) (value : Bytes) (started : Bool) : Bytes :=
  match kind with
  | .plainShell =>
    value ++ (if started then ": not completely converted" else ": expected numeric value").toList
  | .extendedShell => value ++ ": invalid number".toList
  | .program =>
    ['\''] ++ value ++
      (if started then "': value not completely converted" else "': expected a numeric value").toList

/-- The complaint about a value of which something is left over. -/
def leftOver (kind : Kind) (value : Bytes) (rest : Option Bytes) : List Bytes :=
  match rest with
  | some [] => []
  | some _ => [numberComplaint kind value true]
  | none => if value.isEmpty && kind ≠ .plainShell then [] else [numberComplaint kind value false]

/-- The number of the character after a quote. -/
def quotedNumber? (value : Bytes) : Option Int :=
  match value with
  | q :: c :: _ => if q = '\'' || q = '"' then some c.toNat else none
  | [q] => if q = '\'' || q = '"' then some 0 else none
  | [] => none

/-- An integer value. -/
def integerValue (kind : Kind) (value : Option Bytes) : Int × List Bytes :=
  match value with
  | none => (0, [])
  | some value =>
    match quotedNumber? value with
    | some n => (n, [])
    | none =>
      match readInteger value with
      | some (n, rest) => (n, leftOver kind value (some rest))
      | none => (0, leftOver kind value none)

/-- How many significant bits a value with a point has. -/
def significantBits (kind : Kind) : Nat :=
  if kind = .plainShell then 53 else 64

/-- A value with a point. -/
def floatValue (kind : Kind) (value : Option Bytes) : Bool × FormatNumber × List Bytes :=
  match value with
  | none => (false, .finite ⟨0, 1⟩, [])
  | some value =>
    match quotedNumber? value with
    | some n => (false, .finite ⟨n.toNat, 1⟩, [])
    | none =>
      match readDecimal value with
      | some (negative, .finite f, rest) =>
        (negative, .finite (f.toBits (significantBits kind)), leftOver kind value (some rest))
      | some (negative, x, rest) => (negative, x, leftOver kind value (some rest))
      | none => (false, .finite ⟨0, 1⟩, leftOver kind value none)

/-- Fills in a width or a precision that is the next value. -/
def fillCount (kind : Kind) (count : FormatCount) (args : List Bytes) :
    FormatCount × Bool × List Bytes × List Bytes :=
  match count with
  | .next =>
    let (n, complaints) := integerValue kind args.head?
    (.given n.natAbs, n < 0, args.tail, complaints)
  | count => (count, false, args, [])

/-- Fills in what a conversion takes from the values: its width and its precision. -/
def fillConversion (kind : Kind) (c : Conversion) (args : List Bytes) :
    Conversion × List Bytes × List Bytes :=
  let (width, leftward, args, first) := fillCount kind c.width args
  let (precision, dropped, args, second) := fillCount kind c.precision args
  let flags := if leftward then '-' :: c.flags else c.flags
  ({ c with flags := flags, width := width, precision := if dropped then .none else precision },
    args, first ++ second)

/-- What a conversion prints for the next value; `none` if its letter is not known. -/
def convert? (kind : Kind) (c : Conversion) (value : Option Bytes) : Option Printout :=
  let status (complaints : List Bytes) : Nat := if complaints.isEmpty then 0 else 1
  match c.letter with
  | 's' => some { text := c.text (value.getD []) }
  | 'b' =>
    let value := value.getD []
    let (text, ended) := unescape kind .value (value.length + 1) value
    some { text := c.text text, ended := ended }
  | 'c' => some { text := c.pad ((value.getD []).take 1) }
  | 'q' =>
    if kind = .plainShell then none else
      let word := value.getD []
      some { text := c.text (if kind = .program then WordQuotes.mixed word else WordQuotes.escaped word) }
  | 'd' | 'i' =>
    let (n, complaints) := integerValue kind value
    some { text := c.integer (clampSigned n), complaints := complaints, status := status complaints }
  | 'u' | 'o' | 'x' | 'X' =>
    let (n, complaints) := integerValue kind value
    some { text := c.unsigned (toUnsigned n), complaints := complaints, status := status complaints }
  | 'e' | 'E' | 'f' | 'F' | 'g' | 'G' =>
    let (negative, x, complaints) := floatValue kind value
    some { text := c.float negative x, complaints := complaints, status := status complaints }
  | _ => none

/-- The words about a conversion that is not known. -/
def conversionComplaint (kind : Kind) (conversion : Bytes) (letter : Option Char) : Bytes :=
  match kind with
  | .plainShell => conversion ++ ": invalid directive".toList
  | .extendedShell =>
    match letter with
    | some c => ['\x60', c] ++ "': invalid format character".toList
    | none => ['\x60', '%'] ++ "': missing format character".toList
  | .program => conversion ++ ": invalid conversion specification".toList

/-- What is printed in one pass over a format; the values that are left, and whether
    any conversion took one. -/
def pass (kind : Kind) : (fuel : Nat) → (format : Bytes) → (args : List Bytes) → (used : Bool) →
    Printout × List Bytes × Bool
  | 0, _, args, used | _, [], args, used => ({}, args, used)
  | fuel + 1, '\\' :: text, args, used =>
    match escape? kind .format text with
    | some (bytes, _, true) => ({ text := bytes, ended := true }, args, used)
    | some (bytes, rest, false) =>
      let (p, args, used) := pass kind fuel rest args used
      ({ p with text := bytes ++ p.text }, args, used)
    | none =>
      let (p, args, used) := pass kind fuel text args used
      ({ p with text := '\\' :: p.text }, args, used)
  | fuel + 1, '%' :: '%' :: rest, args, used =>
    let (p, args, used) := pass kind fuel rest args used
    ({ p with text := '%' :: p.text }, args, used)
  | fuel + 1, '%' :: text, args, used =>
    match Conversion.read? text with
    | none =>
      ({ complaints := [conversionComplaint kind ('%' :: text) none], status := 1, ended := true },
        args, used)
    | some (c, rest) =>
      let (c, args, complaints) := fillConversion kind c args
      match convert? kind c args.head? with
      | none =>
        ({ complaints := [conversionComplaint kind (Conversion.written text rest) (some c.letter)]
           status := 1, ended := true }, args, used)
      | some first =>
        let first := { first with
          complaints := complaints ++ first.complaints
          status := if complaints.isEmpty then first.status else 1 }
        if first.ended then (first, args.tail, true)
        else
          let (p, args, _) := pass kind fuel rest args.tail true
          (first.append p, args, true)
  | fuel + 1, c :: rest, args, used =>
    let (p, args, used) := pass kind fuel rest args used
    ({ p with text := c :: p.text }, args, used)

/-- What `printf` prints: as many passes over the format as it takes to use all
    values. -/
def passes (kind : Kind) (format : Bytes) : (fuel : Nat) → List Bytes → Printout
  | 0, _ => {}
  | fuel + 1, args =>
    let (p, left, used) := pass kind (format.length + 1) format args false
    if p.ended || left.isEmpty || !used then p
    else p.append (passes kind format fuel left)

/-- What `printf` prints for a format and values. -/
def printf (kind : Kind) (format : Bytes) (args : List Bytes) : Printout :=
  passes kind format (args.length + 1) args

end Lifelines.Printf
