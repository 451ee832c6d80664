import Lifelines.Utility.Excerpt
import Lifelines.Utility.Printf

/-!
# Sorted lines

Lines are compared by keys, parts of them that are compared as texts or as
numbers, and if no key tells them apart as wholes, byte by byte. Sorted inputs
are what `uniq`, `comm` and `join` work on.

* `SortKey`, `SortOrder.compare`;
* `sort`, `uniq`, `comm`, `join`.
-/

namespace Lifelines.Utility

/-- How the parts of lines are compared. -/
structure Comparison where
  numeric : Bool := false
  /-- As numbers with a point and a power of ten. -/
  general : Bool := false
  /-- As numbers with a letter for thousands or millions. -/
  human : Bool := false
  /-- As names of months. -/
  month : Bool := false
  /-- As names with numbers in them. -/
  version : Bool := false
  reverse : Bool := false
  foldCase : Bool := false
  /-- Only blanks, letters and digits count. -/
  dictionary : Bool := false
  /-- Blanks at the start do not count. -/
  skipBlanks : Bool := false
  deriving DecidableEq

/-- A place in a line: a field and a character in it, counted from one; at zero it is
    the end of the field. -/
structure KeyPlace where
  field : Nat
  char : Nat
  skipBlanks : Bool := false

/-- A part of a line by which lines are sorted. -/
structure SortKey where
  start : KeyPlace
  stop : Option KeyPlace
  comparison : Option Comparison

/-- Whether a byte separates fields if no other one is named. -/
def isBlank (c : Char) : Bool :=
  c = ' ' || c = '\t'

/-- A line without its first field, the separator that ends it still there. Without a
    separator, a field is blanks and then other bytes. -/
def dropField (separator : Option Char) (line : Bytes) : Bytes :=
  match separator with
  | some s => line.dropWhile (· ≠ s)
  | none => (line.dropWhile isBlank).dropWhile (!isBlank ·)

/-- What is left of a line from a field on, counted from zero. -/
def fromField (separator : Option Char) : Nat → Bytes → Bytes
  | 0, line => line
  | n + 1, line =>
    let rest := dropField separator line
    fromField separator n (if separator.isSome then rest.drop 1 else rest)

/-- How many bytes of a line are before a key. -/
def keyStart (separator : Option Char) (p : KeyPlace) (line : Bytes) : Nat :=
  let rest := fromField separator (p.field - 1) line
  let rest := if p.skipBlanks then rest.dropWhile isBlank else rest
  min line.length (line.length - rest.length + (p.char - 1))

/-- How many bytes of a line are before the end of a key. -/
def keyStop (separator : Option Char) (p : KeyPlace) (line : Bytes) : Nat :=
  if p.char = 0 then
    let rest := fromField separator (p.field - 1) line
    line.length - (dropField separator rest).length
  else
    let rest := fromField separator (p.field - 1) line
    let rest := if p.skipBlanks then rest.dropWhile isBlank else rest
    min line.length (line.length - rest.length + p.char)

/-- The part of a line that a key is. -/
def SortKey.of (k : SortKey) (separator : Option Char) (line : Bytes) : Bytes :=
  let start := keyStart separator k.start line
  let stop := (k.stop.map fun p => keyStop separator p line).getD line.length
  (line.take stop).drop start

/-- The number at the start of a text as a fraction of a million of units, and what
    follows it. -/
def leadingNumber (text : Bytes) : Int × Bytes :=
  let text := text.dropWhile isBlank
  let (negative, text) :=
    match text with
    | '-' :: rest => (true, rest)
    | text => (false, text)
  let whole := text.takeWhile Char.isDigit
  let rest := text.drop whole.length
  let (places, rest) :=
    match rest with
    | '.' :: after => (after.takeWhile Char.isDigit, after.dropWhile Char.isDigit)
    | rest => ([], rest)
  let digits := whole ++ (places ++ List.replicate 30 '0').take 30
  let n : Int := (Bytes.toNat? digits).getD 0
  (if negative then -n else n, rest)

/-- A number and how large the letter after it makes it. -/
def humanNumber (text : Bytes) : Int × Int :=
  let (n, rest) := leadingNumber text
  let order : Int :=
    match rest.head? with
    | some 'K' | some 'k' => 1
    | some 'M' => 2
    | some 'G' => 3
    | some 'T' => 4
    | some 'P' => 5
    | _ => 0
  (if n < 0 then -order else if n = 0 then 0 else order, n)

/-- The number of a month; zero for other names. -/
def monthNumber (text : Bytes) : Nat :=
  let name := Bytes.toUpper ((text.dropWhile isBlank).take 3)
  let names := ["JAN", "FEB", "MAR", "APR", "MAY", "JUN", "JUL", "AUG", "SEP", "OCT", "NOV", "DEC"]
  ((names.findIdx? fun n => n.toList = name).map (· + 1)).getD 0

/-- The order of two texts, byte by byte. -/
def orderOf (a b : Bytes) : Ordering :=
  if Bytes.before a b then .lt else if Bytes.before b a then .gt else .eq

/-- The order of two names with numbers in them: the numbers are compared as
    numbers. -/
def versionOrder : (fuel : Nat) → Bytes → Bytes → Ordering
  | 0, a, b => orderOf a b
  | _, [], [] => .eq
  | _, [], _ => .lt
  | _, _, [] => .gt
  | fuel + 1, c :: a, d :: b =>
    if c.isDigit && d.isDigit then
      let m := (c :: a).takeWhile Char.isDigit
      let n := (d :: b).takeWhile Char.isDigit
      match compare ((Bytes.toNat? m).getD 0) ((Bytes.toNat? n).getD 0) with
      | .eq => versionOrder fuel ((c :: a).drop m.length) ((d :: b).drop n.length)
      | o => o
    else if c = d then versionOrder fuel a b
    else compare c.toNat d.toNat

/-- A number with a point and a power of ten, for comparing: no number comes first. -/
def generalNumber (text : Bytes) : Nat × Int :=
  match Printf.readDecimal (text.dropWhile isBlank) with
  | some (negative, .finite f, _) =>
    let n : Int := (f.num * Nat.pow 10 40 / f.den : Nat)
    (2, if negative then -n else n)
  | some (negative, .infinite, _) => (if negative then 1 else 3, 0)
  | some (_, .notNumber, _) => (0, 1)
  | none => (0, 0)

/-- The order of pairs. -/
def pairOrder (a b : Int × Int) : Ordering :=
  (compare a.1 b.1).then (compare a.2 b.2)

/-- The order of the parts of two lines. -/
def Comparison.order (c : Comparison) (a b : Bytes) : Ordering :=
  let clean (t : Bytes) : Bytes :=
    let t := if c.skipBlanks then t.dropWhile isBlank else t
    let t := if c.dictionary then t.filter fun x => isBlank x || x.isAlphanum else t
    if c.foldCase then Bytes.toUpper t else t
  let result :=
    if c.numeric then compare (leadingNumber a).1 (leadingNumber b).1
    else if c.general then
      pairOrder ((generalNumber a).1, (generalNumber a).2) ((generalNumber b).1, (generalNumber b).2)
    else if c.human then pairOrder (humanNumber a) (humanNumber b)
    else if c.month then compare (monthNumber a) (monthNumber b)
    else if c.version then versionOrder (a.length + 1) (clean a) (clean b)
    else orderOf (clean a) (clean b)
  if c.reverse then result.swap else result

/-- How lines are sorted. -/
structure SortOrder where
  separator : Option Char := none
  keys : List SortKey := []
  comparison : Comparison := {}
  /-- Whether lines that the keys do not tell apart stay as they are. -/
  stable : Bool := false

namespace SortOrder

/-- The order of two lines by the keys. -/
def byKeys (o : SortOrder) (a b : Bytes) : Ordering :=
  if o.keys.isEmpty then o.comparison.order a b
  else
    o.keys.foldl
      (fun result k =>
        result.then ((k.comparison.getD o.comparison).order (k.of o.separator a) (k.of o.separator b)))
      .eq

/-- The order of two lines. -/
def compare (o : SortOrder) (a b : Bytes) : Ordering :=
  match o.byKeys a b with
  | .eq =>
    if o.stable then .eq
    else if o.comparison.reverse then (orderOf a b).swap
    else orderOf a b
  | result => result

/-- Lines in order. -/
def sort (o : SortOrder) (lines : List Bytes) : List Bytes :=
  lines.mergeSort fun a b => o.compare a b != .gt

/-- Lines none of which is equal to the one before it by the keys. -/
def dropEqual (o : SortOrder) : List Bytes → List Bytes
  | a :: b :: rest =>
    if o.byKeys a b = .eq then dropEqual o (a :: rest) else a :: dropEqual o (b :: rest)
  | lines => lines
termination_by lines => lines.length

end SortOrder

/-- A comparison with the letters of an option. -/
def readComparison (c : Comparison) : Bytes → Comparison
  | [] => c
  | letter :: rest =>
    let c :=
      match letter with
      | 'n' => { c with numeric := true }
      | 'g' => { c with general := true }
      | 'h' => { c with human := true }
      | 'M' => { c with month := true }
      | 'V' => { c with version := true }
      | 'r' => { c with reverse := true }
      | 'f' => { c with foldCase := true }
      | 'd' => { c with dictionary := true }
      | 'b' => { c with skipBlanks := true }
      | _ => c
    readComparison c rest

/-- A place of a key, and the letters after it. -/
def readKeyPlace (text : Bytes) (char : Nat) : KeyPlace × Bytes :=
  let field := text.takeWhile Char.isDigit
  let rest := text.drop field.length
  let (char, letters) :=
    match rest with
    | '.' :: rest =>
      let digits := rest.takeWhile Char.isDigit
      ((Bytes.toNat? digits).getD char, rest.drop digits.length)
    | rest => (char, rest)
  (⟨(Bytes.toNat? field).getD 1, char, letters.contains 'b'⟩, letters)

/-- A key as it is written in an option. -/
def readKey (text : Bytes) : SortKey :=
  let first := text.takeWhile (· ≠ ',')
  let (start, startLetters) := readKeyPlace first 1
  match text.drop first.length with
  | _ :: second =>
    let (stop, stopLetters) := readKeyPlace second 0
    let letters := startLetters ++ stopLetters
    ⟨start, some stop, if letters.isEmpty then none else some (readComparison {} (letters.filter (· ≠ 'b')))⟩
  | [] =>
    ⟨start, none,
      if startLetters.isEmpty then none else some (readComparison {} (startLetters.filter (· ≠ 'b')))⟩

/-- The order that options ask for. -/
def sortOrderOf (g : Given) : SortOrder :=
  let comparison := readComparison {} (g.options.map (·.1))
  { separator := (g.value? 't').bind fun v => if v = ['\\', '0'] then some '\x00' else v.head?
    keys := (g.values 'k').map readKey
    comparison := comparison
    stable := g.has 's' || g.has 'u' }

/-- The number of the first line that is out of order, counted from one, and the
    line. -/
def firstDisorder (o : SortOrder) (unique : Bool) (n : Nat) : List Bytes → Option (Nat × Bytes)
  | a :: b :: rest =>
    let result := o.compare a b
    if result = .gt || (unique && o.byKeys a b = .eq) then some (n + 1, b)
    else firstDisorder o unique (n + 1) (b :: rest)
  | _ => none

/-- Prints the lines of all files in order. -/
def sort : Work Nat :=
  let names := [("reverse", 'r'), ("numeric-sort", 'n'), ("unique", 'u'), ("key", 'k'),
    ("field-separator", 't'), ("ignore-case", 'f'), ("output", 'o'), ("check", 'c'),
    ("stable", 's'), ("merge", 'm'), ("general-numeric-sort", 'g'), ("human-numeric-sort", 'h'),
    ("version-sort", 'V'), ("ignore-leading-blanks", 'b'), ("dictionary-order", 'd'),
    ("month-sort", 'M'), ("temporary-directory", 'T'), ("zero-terminated", 'z')]
  withOptions { letters := letters "bcCdfghik:mMno:rRsS:t:T:uVz", names := names, failure := 2 }
    fun g => do
      let o := sortOrderOf g
      let paths := if g.operands.isEmpty then [['-']] else g.operands
      let mut lines := []
      for path in paths do
        match ← Work.contents path with
        | .ok text => lines := lines ++ Bytes.lines text
        | .error e =>
          return ← Work.fail 2 ((if e = .isDirectory then "read failed: " else "cannot read: ").toList ++
            plainComplaint path e)
      if g.has 'c' || g.has 'C' then
        match firstDisorder o (g.has 'u') 1 lines with
        | none => return 0
        | some (n, line) =>
          if g.has 'c' then
            Work.complain ((paths.headD ['-']) ++ ":".toList ++ Bytes.ofNat n ++
              ": disorder: ".toList ++ line)
          return 1
      let sorted := o.sort lines
      let text := Bytes.ofLines (if g.has 'u' then o.dropEqual sorted else sorted)
      match g.value? 'o' with
      | none =>
        Work.say text
        return 0
      | some path =>
        match ← Work.store path text with
        | .ok _ => return 0
        | .error e => Work.fail 2 ("open failed: ".toList ++ plainComplaint path e)

/-! ### Lines that repeat -/

/-- Drops the first word of a line with the blanks before it. -/
def dropWord (line : Bytes) : Bytes :=
  (line.dropWhile isBlank).dropWhile (!isBlank ·)

/-- The part of a line that tells it from others. -/
def uniqKey (g : Given) (line : Bytes) : Bytes :=
  let number (c : Char) : Option Nat := (g.value? c).bind Bytes.toNat?
  let line := Nat.repeat dropWord ((number 'f').getD 0) line
  let line := line.drop ((number 's').getD 0)
  let line := ((number 'w').map fun n => line.take n).getD line
  if g.has 'i' then Bytes.toLower line else line

/-- Runs of lines with one key: the first line of each, and how many there are. -/
def runs (key : Bytes → Bytes) : List Bytes → List (Bytes × List Bytes)
  | [] => []
  | line :: rest =>
    match runs key rest with
    | (first, others) :: more =>
      if key line = key first then (line, first :: others) :: more
      else (line, []) :: (first, others) :: more
    | [] => [(line, [])]

/-- Prints each line only once where it repeats. -/
def uniq : Work Nat :=
  let names := [("count", 'c'), ("repeated", 'd'), ("unique", 'u'), ("ignore-case", 'i'),
    ("skip-fields", 'f'), ("skip-chars", 's'), ("check-chars", 'w')]
  withOptions { letters := letters "cdDf:is:uw:z", names := names } fun g => do
    match g.operands with
    | _ :: _ :: third :: _ => extraOperand third
    | operands =>
      match ← Work.contents (operands.headD ['-']) with
      | .error e => Work.fail 1 (plainComplaint (operands.headD ['-']) e)
      | .ok text =>
        let all := runs (uniqKey g) (Bytes.lines text)
        let wanted := all.filter fun run =>
          (!(g.has 'd' || g.has 'D') || !run.2.isEmpty) && (!g.has 'u' || run.2.isEmpty)
        let shown (run : Bytes × List Bytes) : List Bytes :=
          if g.has 'D' then run.1 :: run.2
          else if g.has 'c' then
            [Bytes.padLeft 7 ' ' (Bytes.ofNat (run.2.length + 1)) ++ ' ' :: run.1]
          else [run.1]
        let result := Bytes.ofLines (wanted.flatMap shown)
        match operands with
        | [_, target] =>
          match ← Work.store target result with
          | .ok _ => return 0
          | .error e => Work.fail 1 (plainComplaint target e)
        | _ =>
          Work.say result
          return 0

/-! ### Two sorted inputs -/

/-- Where a line of two sorted inputs is: in the first, the second or both. -/
inductive Side where
  | first
  | second
  | both
  deriving DecidableEq

/-- Merges sorted lines. -/
def mergeSides : List Bytes → List Bytes → List (Side × Bytes)
  | [], b => b.map fun line => (.second, line)
  | a, [] => a.map fun line => (.first, line)
  | x :: a, y :: b =>
    match orderOf x y with
    | .lt => (.first, x) :: mergeSides a (y :: b)
    | .gt => (.second, y) :: mergeSides (x :: a) b
    | .eq => (.both, x) :: mergeSides a b
termination_by a b => a.length + b.length

/-- The contents of two files. -/
def twoFiles (g : Given) (use : Bytes → Bytes → Work Nat) : Work Nat := do
  match g.operands with
  | [] => missingOperand []
  | [one] => missingOperand [one]
  | [one, two] =>
    match ← Work.contents one with
    | .error e => Work.fail 1 (plainComplaint one e)
    | .ok a =>
      match ← Work.contents two with
      | .error e => Work.fail 1 (plainComplaint two e)
      | .ok b => use a b
  | _ :: _ :: third :: _ => extraOperand third

/-- Prints the lines of two sorted files in three columns. -/
def comm : Work Nat :=
  withOptions { letters := letters "123z" } fun g =>
    twoFiles g fun a b => do
      let shown (s : Side) : Bool :=
        match s with
        | .first => !g.has '1'
        | .second => !g.has '2'
        | .both => !g.has '3'
      let tabs (s : Side) : Nat :=
        match s with
        | .first => 0
        | .second => if shown .first then 1 else 0
        | .both => (if shown .first then 1 else 0) + (if shown .second then 1 else 0)
      for (side, line) in mergeSides (Bytes.lines a) (Bytes.lines b) do
        if shown side then Work.sayLine (List.replicate (tabs side) '\t' ++ line)
      return 0

/-- Prints lines of two sorted files with the same first field as one. -/
def join : Work Nat :=
  withOptions { letters := letters "a:e:i1:2:j:o:t:v:" } fun g =>
    twoFiles g fun a b => do
      let separator := (g.value? 't').bind List.head?
      let fields (line : Bytes) : List Bytes :=
        match separator with
        | some c => Bytes.splitOn c line
        | none => Bytes.words line
      let glue := [separator.getD ' ']
      let number (c : Char) : Nat :=
        (((g.value? 'j').orElse fun _ => g.value? c).bind Bytes.toNat?).getD 1
      let split (n : Nat) (line : Bytes) : Bytes × List Bytes :=
        let fs := fields line
        (fs.getD (n - 1) [], fs.take (n - 1) ++ fs.drop n)
      let left := (Bytes.lines a).map (split (number '1'))
      let right := (Bytes.lines b).map (split (number '2'))
      let unpaired (c : Char) : Bool := (g.values 'a' ++ g.values 'v').contains [c]
      for (key, rest) in left do
        let partners := right.filter fun r => r.1 = key
        if partners.isEmpty && unpaired '1' then Work.sayLine (Bytes.join glue (key :: rest))
        if !g.has 'v' then
          for (_, other) in partners do
            Work.sayLine (Bytes.join glue (key :: rest ++ other))
      if unpaired '2' then
        for (key, rest) in right do
          if !(left.any fun l => l.1 = key) then Work.sayLine (Bytes.join glue (key :: rest))
      return 0

end Lifelines.Utility
