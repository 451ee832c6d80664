import Lifelines.Text.Conversion
import Lifelines.Utility.Options

/-!
# Rows of numbers

A row of numbers goes from one number to another in equal steps. The numbers are
decimals, and they are counted in units of the last digit that is written.

* `ScaledNumber`: a decimal as a number of units;
* `seq`, `factor`.
-/

namespace Lifelines.Utility

/-- A decimal: a number of units, of which a one has ten to the power of `places`. -/
structure ScaledNumber where
  units : Int
  places : Nat

namespace ScaledNumber

/-- The same number in smaller units. -/
def withPlaces (x : ScaledNumber) (places : Nat) : Int :=
  x.units * Nat.pow 10 (places - x.places)

/-- Reads a decimal, perhaps with a power of ten, or a number in base sixteen. -/
def read? (text : Bytes) : Option ScaledNumber :=
  let text := Bytes.trimStart text
  let negative := text.head? = some '-'
  let body := if negative || text.head? = some '+' then text.drop 1 else text
  let signed (n : Nat) : Int := if negative then -(n : Int) else n
  match body with
  | '0' :: x :: digits =>
    if x = 'x' || x = 'X' then
      let isDigit (c : Char) : Bool := c.isDigit || ('a' ≤ c.toLower && c.toLower ≤ 'f')
      if digits.isEmpty || !digits.all isDigit then none
      else
        let value (c : Char) : Nat := if c.isDigit then c.toNat - 48 else c.toLower.toNat - 87
        some ⟨signed (digits.foldl (fun n c => n * 16 + value c) 0), 0⟩
    else decimal signed body
  | body => decimal signed body
where
  /-- Reads a decimal without a sign. -/
  decimal (signed : Nat → Int) (body : Bytes) : Option ScaledNumber :=
    let whole := body.takeWhile Char.isDigit
    let rest := body.drop whole.length
    let (fraction, rest) : Bytes × Bytes :=
      match rest with
      | '.' :: rest => (rest.takeWhile Char.isDigit, rest.dropWhile Char.isDigit)
      | rest => ([], rest)
    match Bytes.toNat? (whole ++ fraction) with
    | none => none
    | some n =>
      match rest with
      | [] => some ⟨signed n, fraction.length⟩
      | e :: power =>
        if e ≠ 'e' && e ≠ 'E' then none
        else
          match Bytes.toInt? power with
          | none => none
          | some p =>
            let places : Int := (fraction.length : Int) - p
            some ⟨signed (n * Nat.pow 10 (-places).toNat), places.toNat⟩

/-- A number of units, of which a one has ten to the power of `places`, written with
    that many digits after the point. -/
def text (units : Int) (places : Nat) : Bytes :=
  (if units < 0 then ['-'] else []) ++ Decimal.fixed ⟨units.natAbs, Nat.pow 10 places⟩ places false

end ScaledNumber

/-- A format for numbers: what stands before the number, how it is written, and what
    stands after it. -/
structure NumberFormat where
  before : Bytes
  conversion : Conversion
  after : Bytes

/-- Reads a format for numbers, or says what is wrong with it. -/
def readNumberFormat (whole : Bytes) : Except Bytes NumberFormat :=
  let (before, rest) := plain whole.length whole
  match rest with
  | [] => .error ("format ".toList ++ quoted whole ++ " has no % directive".toList)
  | _ :: rest =>
    match Conversion.read? rest with
    | none => .error ("format ".toList ++ quoted whole ++ " ends in %".toList)
    | some (c, rest) =>
      if !"aefgAEFG".toList.contains c.letter then
        .error ("format ".toList ++ quoted whole ++ " has unknown %".toList ++ [c.letter] ++
          " directive".toList)
      else
        let (after, rest) := plain rest.length rest
        if rest.isEmpty then .ok ⟨before, c, after⟩
        else .error ("format ".toList ++ quoted whole ++ " has too many % directives".toList)
where
  /-- The text before the next conversion. -/
  plain : Nat → Bytes → Bytes × Bytes
    | fuel + 1, '%' :: '%' :: rest =>
      let (text, rest) := plain fuel rest
      ('%' :: text, rest)
    | _, '%' :: rest => ([], '%' :: rest)
    | fuel + 1, c :: rest =>
      let (text, rest) := plain fuel rest
      (c :: text, rest)
    | _, rest => ([], rest)

/-- The words that are no options though they start with a dash: numbers. -/
def guardNumbers (args : List Bytes) : List Bytes :=
  let isNumber (word : Bytes) : Bool :=
    match word with
    | '-' :: c :: _ => c.isDigit || c = '.'
    | _ => false
  match args.span fun a => !isNumber a && a.head? = some '-' && a ≠ ['-', '-'] with
  | (before, rest) =>
    -- the value of an option may be a number
    match rest with
    | word :: more =>
      if isNumber word then before ++ ['-', '-'] :: word :: more
      else
        match before.getLast?, more with
        | some ['-', c], next :: _ =>
          if isNumber next && (c = 'f' || c = 's') then before ++ word :: ['-', '-'] :: more else args
        | _, _ => args
    | [] => args

/-- Prints a row of numbers. -/
def seq : Work Nat := do
  let names := [("format", 'f'), ("separator", 's'), ("equal-width", 'w')]
  let shape : OptionShape := { letters := letters "f:s:w", names := names, ordered := true }
  withReader (fun job => { job with args := guardNumbers job.args }) do
    withOptions shape fun g => do
      match g.operands with
      | [] => missingOperand []
      | _ :: _ :: _ :: extra :: _ => extraOperand extra
      | operands =>
        match operands.find? fun word => (ScaledNumber.read? word).isNone with
        | some word => misuse 1 ("invalid floating point argument: ".toList ++ quoted word)
        | none =>
          let numbers := operands.filterMap ScaledNumber.read?
          let (first, step, last) : ScaledNumber × ScaledNumber × ScaledNumber :=
            match numbers with
            | [last] => (⟨1, 0⟩, ⟨1, 0⟩, last)
            | [first, last] => (first, ⟨1, 0⟩, last)
            | first :: step :: last :: _ => (first, step, last)
            | [] => (⟨1, 0⟩, ⟨1, 0⟩, ⟨0, 0⟩)
          if step.units = 0 then
            misuse 1 ("invalid Zero increment value: ".toList ++ quoted ((operands.drop 1).headD []))
          else
            let shown := max first.places step.places
            let places := max shown last.places
            let a := first.withPlaces places
            let d := step.withPlaces places
            let z := last.withPlaces places
            let count : Nat :=
              if (0 < d && z < a) || (d < 0 && a < z) then 0 else ((z - a) / d).toNat + 1
            let unitsOf (k : Nat) : Int := (a + d * k) / Nat.pow 10 (places - shown)
            let plain (k : Nat) : Bytes := ScaledNumber.text (unitsOf k) shown
            match (g.value? 'f').map readNumberFormat with
            | some (.error text) => Work.fail 1 text
            | some (.ok f) =>
              let formatted (k : Nat) : Bytes :=
                let units := a + d * k
                f.before ++
                  f.conversion.float (units < 0) (.finite ⟨units.natAbs, Nat.pow 10 places⟩) ++ f.after
              print g count formatted
            | none =>
              if g.has 'w' then
                let final := z / Nat.pow 10 (places - shown)
                let width := max (plain 0).length (ScaledNumber.text final shown).length
                let filled (k : Nat) : Bytes :=
                  match plain k with
                  | '-' :: digits => '-' :: Bytes.padLeft (width - 1) '0' digits
                  | digits => Bytes.padLeft width '0' digits
                print g count filled
              else print g count plain
where
  /-- Prints the numbers with separators between them. -/
  print (g : Given) (count : Nat) (text : Nat → Bytes) : Work Nat := do
    let separator := (g.value? 's').getD ['\n']
    if count ≠ 0 then
      let pieces := (List.range count).map fun k => if k = 0 then text k else separator ++ text k
      Work.say (pieces.flatten ++ ['\n'])
    return 0

/-! ### Factors -/

/-- The prime factors of a number from `d` on, the smallest first. -/
def factorsFrom : (fuel : Nat) → (d n : Nat) → List Nat
  | 0, _, n => if n ≤ 1 then [] else [n]
  | fuel + 1, d, n =>
    if n ≤ 1 then []
    else if n < d * d then [n]
    else if n % d = 0 then d :: factorsFrom fuel d (n / d)
    else factorsFrom fuel (if d = 2 then 3 else d + 2) n

/-- Prints the prime factors of numbers. -/
def factor : Work Nat :=
  withOptions { letters := letters "h", names := [("exponents", 'h')] } fun g => do
    let words ← if g.operands.isEmpty then do pure (Bytes.words (← Work.input)) else pure g.operands
    let mut status := 0
    for word in words do
      match Bytes.toNat? word with
      | some n =>
        let factors := (factorsFrom (Nat.sqrt n + Nat.log2 (n + 1) + 2) 2 n).map Bytes.ofNat
        Work.sayLine (Bytes.join [' '] ((Bytes.ofNat n ++ [':']) :: factors))
      | none =>
        Work.complain (quoted word ++ " is not a valid positive integer".toList)
        status := 1
    return status

end Lifelines.Utility
