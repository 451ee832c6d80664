import Lifelines.Utility.Excerpt
import Lifelines.Utility.Printf
import Lifelines.Pattern.CharSet

/-!
# Columns of lines

Utilities that take lines apart into fields or characters, put lines together,
or replace characters.

* `cut`, `paste`, `nl`, `fold`, `expand`: lines and their columns;
* `tr`: characters.
-/

namespace Lifelines.Utility

/-! ### Parts of lines -/

/-- Ranges of positions, counted from one; `none` has no end. -/
abbrev Positions := List (Nat × Option Nat)

/-- A range of positions as it is written. -/
def readRange? (text : Bytes) : Option (Nat × Option Nat) :=
  let first := text.takeWhile Char.isDigit
  match text.drop first.length with
  | [] => (Bytes.toNat? first).map fun n => (n, some n)
  | '-' :: last =>
    match Bytes.toNat? first, Bytes.toNat? last, first.isEmpty, last.isEmpty with
    | some n, none, _, true => some (n, none)
    | none, some m, true, _ => some (1, some m)
    | some n, some m, _, _ => if m < n then none else some (n, some m)
    | _, _, _, _ => none
  | _ => none

/-- Whether a position is in some ranges. -/
def inPositions (ranges : Positions) (n : Nat) : Bool :=
  ranges.any fun r => r.1 ≤ n && (r.2.map fun m => decide (n ≤ m)).getD true

/-- The items at some positions. -/
def pick {α : Type} (wanted : Nat → Bool) (items : List α) : List α :=
  (items.zipIdx.filter fun item => wanted (item.2 + 1)).map (·.1)

/-- Prints parts of each line. -/
def cut : Work Nat :=
  let names := [("delimiter", 'd'), ("fields", 'f'), ("characters", 'c'), ("bytes", 'b'),
    ("only-delimited", 's'), ("complement", 'C'), ("output-delimiter", 'o')]
  withOptions { letters := letters "b:c:d:f:nsCo:z", names := names } fun g => do
    match g.lastOf "bcf" with
    | none => misuse 1 "you must specify a list of bytes, characters, or fields".toList
    | some kind =>
      let parts := (rangesOf ((g.value? kind).getD [])).map readRange?
      let ranges := parts.filterMap id
      let delimiter := (g.value? 'd').getD ['\t']
      if delimiter.length ≠ 1 && !delimiter.isEmpty then
        misuse 1 "the delimiter must be a single character".toList
      else if parts.any (·.isNone) then
        misuse 1 ((if kind = 'f' then "invalid field range" else "invalid byte or character range").toList)
      else if ranges.any fun r => r.1 = 0 then
        misuse 1 ((if kind = 'f' then "fields are numbered from 1"
          else "byte/character positions are numbered from 1").toList)
      else
        let wanted (n : Nat) : Bool := inPositions ranges n != g.has 'C'
        let glue := (g.value? 'o').getD delimiter
        let separator := delimiter.headD '\x00'
        let cutLine (line : Bytes) : Option Bytes :=
          if kind = 'f' then
            if line.contains separator then
              some (Bytes.join glue (pick wanted (Bytes.splitOn separator line)))
            else if g.has 's' then none
            else some line
          else some (pick wanted line)
        let (texts, status) ← gather plainComplaint g.operands
        for (_, text) in texts do
          Work.say (Bytes.ofLines ((Bytes.lines text).filterMap cutLine))
        return status
where
  /-- The ranges of a list, which commas or blanks separate. -/
  rangesOf (text : Bytes) : List Bytes :=
    (Bytes.splitOn ',' (text.map fun c => if isGap c then ',' else c)).filter fun p => !p.isEmpty
  /-- Whether a byte separates ranges. -/
  isGap (c : Char) : Bool :=
    c = ' ' || c = '\t'

/-! ### Lines side by side -/

/-- Texts with separators between them that are taken in turn. -/
def weave (separators : List Char) (all : List Char) : List Bytes → Bytes
  | [] => []
  | [text] => text
  | text :: rest =>
    match separators, all with
    | c :: more, _ => text ++ (if c = '\x00' then [] else [c]) ++ weave more all rest
    | [], c :: more => text ++ (if c = '\x00' then [] else [c]) ++ weave more all rest
    | [], [] => text ++ weave [] [] rest

/-- The rows of columns, short ones filled with empty texts. -/
def rowsOf : (fuel : Nat) → List (List Bytes) → List (List Bytes)
  | 0, _ => []
  | fuel + 1, columns =>
    if columns.all List.isEmpty then []
    else (columns.map fun c => c.headD []) :: rowsOf fuel (columns.map List.tail)

/-- Prints the lines of files side by side, or, with the option `-s`, the lines of each
    file as one line. -/
def paste : Work Nat :=
  withOptions { letters := letters "d:sz", names := [("delimiters", 'd'), ("serial", 's')] } fun g => do
    let escaped := (g.value? 'd').getD ['\t']
    let separators := separatorsOf escaped
    let usesInput := (g.operands.filter (· = ['-'])).length
    let (texts, status) ← gather plainComplaint g.operands
    let columns := texts.map fun t => Bytes.lines t.2
    -- several dashes take the lines of the input in turn
    let columns :=
      if 1 < usesInput then
        let lines := (texts.zip columns).foldl (fun ls c => if c.1.1 = ['-'] then ls ++ c.2 else ls) []
        let turn (k : Nat) : List Bytes := pick (fun n => (n - 1) % usesInput = k) lines
        ((texts.zip columns).foldl
          (fun (acc : List (List Bytes) × Nat) c =>
            if c.1.1 = ['-'] then (acc.1 ++ [turn acc.2], acc.2 + 1) else (acc.1 ++ [c.2], acc.2))
          ([], 0)).1
      else columns
    if g.has 's' then
      for column in columns do
        Work.sayLine (weave separators separators column)
    else
      let longest := (columns.map List.length).foldl max 0
      for row in rowsOf longest columns do
        Work.sayLine (weave separators separators row)
    return status
where
  /-- The separators, escapes replaced. -/
  separatorsOf : Bytes → List Char
    | '\\' :: '0' :: rest => '\x00' :: separatorsOf rest
    | '\\' :: c :: rest => Pattern.CharSet.namedEscape c :: separatorsOf rest
    | c :: rest => c :: separatorsOf rest
    | [] => []

/-! ### Numbers before lines -/

/-- Prints lines with numbers before them. -/
def nl : Work Nat :=
  withOptions { letters := letters "b:d:f:h:i:l:n:ps:v:w:" } fun g => do
    let number (c : Char) (default : Nat) : Nat := ((g.value? c).bind Bytes.toNat?).getD default
    let width := number 'w' 6
    let separator := (g.value? 's').getD ['\t']
    let style := (g.value? 'b').getD ['t']
    let layout := (g.value? 'n').getD "rn".toList
    let (texts, status) ← gather plainComplaint g.operands
    let mut n := number 'v' 1
    for line in Bytes.lines (texts.map (·.2)).flatten do
      if style = ['a'] || (style = ['t'] && !line.isEmpty) then
        let digits := Bytes.ofNat n
        let shown :=
          if layout = "ln".toList then Bytes.padRight width digits
          else Bytes.padLeft width (if layout = "rz".toList then '0' else ' ') digits
        Work.sayLine (shown ++ separator ++ line)
        n := n + number 'i' 1
      else Work.sayLine (List.replicate (width + separator.length) ' ' ++ line)
    return status

/-! ### Long lines and tabs -/

/-- Breaks a line after so many bytes, or, between words, after the last blank before. -/
def foldLine (width : Nat) (atBlanks : Bool) : (fuel : Nat) → Bytes → List Bytes
  | 0, line => [line]
  | fuel + 1, line =>
    if line.length ≤ width then [line]
    else
      let piece := line.take width
      let kept := (piece.reverse.dropWhile fun c => !isBlankByte c).length
      let n := if atBlanks && 0 < kept then kept else width
      line.take n :: foldLine width atBlanks fuel (line.drop n)
where
  /-- Whether a byte is a blank. -/
  isBlankByte (c : Char) : Bool :=
    c = ' ' || c = '\t'

/-- Breaks long lines. -/
def fold : Work Nat :=
  withOptions { letters := letters "bsw:", names := [("width", 'w'), ("spaces", 's')] } fun g => do
    let width := max 1 (((g.value? 'w').bind Bytes.toNat?).getD 80)
    let (texts, status) ← gather plainComplaint g.operands
    for (_, text) in texts do
      for line in Bytes.fullLines text do
        let body := Bytes.withoutNewline line
        Work.say (Bytes.join ['\n'] (foldLine width (g.has 's') body.length body) ++
          line.drop body.length)
    return status

/-- Replaces tabs by blanks. -/
def expandTabs (size : Nat) (column : Nat) : Bytes → Bytes
  | [] => []
  | '\t' :: rest =>
    let n := size - column % size
    List.replicate n ' ' ++ expandTabs size (column + n) rest
  | c :: rest => c :: expandTabs size (if c = '\n' then 0 else column + 1) rest

/-- Prints files with blanks in place of tabs. -/
def expand : Work Nat :=
  withOptions { letters := letters "it:", names := [("tabs", 't')] } fun g => do
    let size := max 1 (((g.value? 't').bind Bytes.toNat?).getD 8)
    let (texts, status) ← gather plainComplaint g.operands
    for (_, text) in texts do
      Work.say (expandTabs size 0 text)
    return status

/-! ### Characters -/

/-- The characters from one to another. -/
def charRange (low high : Char) : Bytes :=
  (List.range (high.toNat + 1 - low.toNat)).map fun k => Char.ofNat (low.toNat + k)

/-- All bytes. -/
def allBytes : Bytes :=
  (List.range 256).map Char.ofNat

/-- A character of a list that `tr` is given, escapes replaced, and what follows it. -/
def trChar : Bytes → Option (Char × Bytes)
  | [] => none
  | '\\' :: c :: rest =>
    if Printf.isOctal c then
      let (digits, after) := Printf.takeDigits 3 Printf.isOctal (c :: rest)
      some (Printf.byte (Printf.numberOf 8 digits), after)
    else some (((Printf.simpleEscape? c).getD c), rest)
  | c :: rest => some (c, rest)

/-- A list that `tr` is given: its characters, and a repetition that fills up the list
    as `none` for the place of the filling. -/
structure TrList where
  before : Bytes := []
  fill : Option Char := none
  after : Bytes := []

/-- Adds characters. -/
def TrList.add (l : TrList) (cs : Bytes) : TrList :=
  if l.fill.isSome then { l with after := l.after ++ cs } else { l with before := l.before ++ cs }

/-- A list that is filled up to a length. -/
def TrList.toLength (l : TrList) (n : Nat) : Bytes :=
  l.before ++ List.replicate (n - l.before.length - l.after.length) (l.fill.getD ' ') ++ l.after

/-- Reads a list. -/
def readTrList : (fuel : Nat) → TrList → Bytes → Except Bytes TrList
  | 0, l, _ | _, l, [] => .ok l
  | fuel + 1, l, '[' :: ':' :: rest =>
    match Pattern.CharSet.readMarked ':' rest with
    | some (name, after) =>
      match Pattern.CharSet.classRanges? name with
      | some ranges =>
        let set : Pattern.CharSet := ⟨false, ranges⟩
        readTrList fuel (l.add (allBytes.filter set.contains)) after
      | none => .error ("invalid character class ".toList ++ ['\''] ++ name ++ ['\''])
    | none => readTrList fuel (l.add ['[']) (':' :: rest)
  | fuel + 1, l, text =>
    match starred text with
    | some (c, count, after) =>
      match count with
      | 0 => readTrList fuel { l with fill := some c } after
      | n => readTrList fuel (l.add (List.replicate n c)) after
    | none =>
      match trChar text with
      | none => .ok l
      | some (low, '-' :: d :: rest) =>
        match trChar (d :: rest) with
        | some (high, after) =>
          if high < low then
            .error ("range-endpoints of '".toList ++ [low, '-', high] ++
              "' are in reverse collating sequence order".toList)
          else readTrList fuel (l.add (charRange low high)) after
        | none => .ok l
      | some (c, rest) => readTrList fuel (l.add [c]) rest
where
  /-- A character in brackets with a star and a count. -/
  starred : Bytes → Option (Char × Nat × Bytes)
    | '[' :: rest =>
      match trChar rest with
      | some (c, '*' :: after) =>
        let digits := after.takeWhile Char.isDigit
        match after.drop digits.length with
        | ']' :: rest =>
          let base := if digits.head? = some '0' then 8 else 10
          some (c, Printf.numberOf base digits, rest)
        | _ => none
      | _ => none
    | _ => none

/-- Drops repetitions of characters of a set. -/
def squeeze (set : Char → Bool) : Option Char → Bytes → Bytes
  | _, [] => []
  | last, c :: rest =>
    if set c && last = some c then squeeze set last rest else c :: squeeze set (some c) rest

/-- Replaces, drops or squeezes characters of the input. -/
def tr : Work Nat :=
  let names := [("delete", 'd'), ("squeeze-repeats", 's'), ("complement", 'c'), ("truncate-set1", 't')]
  withOptions { letters := letters "cCdst", names := names, ordered := true } fun g => do
    let complement := g.has 'c' || g.has 'C'
    let lists := g.operands.map fun text => readTrList (text.length + 1) {} text
    match lists, g.operands with
    | [], _ => missingOperand []
    | _, [_, _, third] => extraOperand third
    | [.error e], _ | .error e :: _ :: _, _ | .ok _ :: .error e :: _, _ => Work.fail 1 e
    | [.ok one], [word] =>
      let first := if complement then allBytes.filter (!one.before.contains ·) else one.before
      if g.has 'd' then
        if g.has 's' then missingSecond word "deleting and squeezing repeats"
        else
          Work.say ((← Work.input).filter fun c => !first.contains c)
          return 0
      else if g.has 's' then
        Work.say (squeeze first.contains none (← Work.input))
        return 0
      else missingSecond word "translating"
    | .ok one :: .ok two :: _, _ =>
      let first := if complement then allBytes.filter (!one.before.contains ·) else one.toLength 0
      if g.has 'd' then
        if g.has 's' then
          let kept := (← Work.input).filter fun c => !first.contains c
          Work.say (squeeze (two.toLength 0).contains none kept)
          return 0
        else do
          Work.complain ("extra operand '".toList ++ (g.operands.getD 1 []) ++ ['\''])
          Work.note "Only one string may be given when deleting without squeezing repeats.".toList
          suggestHelp 1
      else
        let second := two.toLength first.length
        let first := if g.has 't' then first.take second.length else first
        let last := second.getLastD ' '
        let table := first.zipIdx.map fun p => (p.1, second.getD p.2 last)
        let replaced := (← Work.input).map fun c => ((table.reverse.lookup c).getD c)
        Work.say (if g.has 's' then squeeze second.contains none replaced else replaced)
        return 0
    | _, _ => missingOperand g.operands
where
  /-- Complains that there is no second list. -/
  missingSecond (word : Bytes) (action : String) : Work Nat := do
    Work.complain ("missing operand after '".toList ++ word ++ ['\''])
    Work.note ("Two strings must be given when ".toList ++ action.toList ++ ['.'])
    suggestHelp 1

end Lifelines.Utility
