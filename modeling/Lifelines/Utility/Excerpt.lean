import Lifelines.Utility.Options

/-!
# Whole files and parts of them

Utilities that print their input, or the start or the end of it, or count it.
-/

namespace Lifelines.Utility

/-! ### Whole files -/

/-- A byte that cannot be printed, made visible. -/
def visible (c : Char) : Bytes :=
  let low (n : Nat) : Bytes :=
    if n < 32 then ['^', Char.ofNat (n + 64)] else if n = 127 then ['^', '?'] else [Char.ofNat n]
  if c.toNat < 128 then low c.toNat else ['M', '-'] ++ low (c.toNat - 128)

/-- The bytes of a line as `cat` shows them. -/
def shownByte (g : Given) (c : Char) : Bytes :=
  if c = '\n' then if g.has 'E' then ['$', '\n'] else ['\n']
  else if c = '\t' then if g.has 'T' then ['^', 'I'] else ['\t']
  else if g.has 'v' then visible c
  else [c]

/-- Lines as `cat` shows them: blank ones squeezed, and numbered, as the options say. -/
def shownLines (g : Given) (n : Nat) (blankBefore : Bool) : List Bytes → Bytes
  | [] => []
  | line :: rest =>
    let blank := line = ['\n']
    if g.has 's' && blank && blankBefore then shownLines g n true rest
    else
      let numbered := if g.has 'b' then !blank else g.has 'n'
      let number := if numbered then Bytes.padLeft 6 ' ' (Bytes.ofNat n) ++ ['\t'] else []
      number ++ line.flatMap (shownByte g) ++
        shownLines g (if numbered then n + 1 else n) blank rest

/-- Prints files one after the other. -/
def cat : Work Nat :=
  let names := [("show-all", 'A'), ("number-nonblank", 'b'), ("show-ends", 'E'), ("number", 'n'),
    ("squeeze-blank", 's'), ("show-tabs", 'T'), ("show-nonprinting", 'v')]
  withOptions { letters := letters "AbeEnstTuv", names := names } fun g => do
    let g := if g.has 'A' then ((g.add 'v' []).add 'E' []).add 'T' [] else g
    let g := if g.has 'e' then (g.add 'v' []).add 'E' [] else g
    let g := if g.has 't' then (g.add 'v' []).add 'T' [] else g
    let (texts, status) ← gather plainComplaint g.operands
    let text := (texts.map (·.2)).flatten
    Work.say (if g.options.isEmpty then text else shownLines g 1 false (Bytes.fullLines text))
    return status

/-- The words about a file that cannot be opened. -/
def cannotOpen (path : Bytes) (e : FileError) : Bytes :=
  "failed to open ".toList ++ quoted path ++ " for reading: ".toList ++ e.reason

/-- Prints the lines of each file in reverse order. -/
def tac : Work Nat :=
  withOptions { letters := letters "brs:" } fun g => do
    let (texts, status) ← gather cannotOpen g.operands
    for (_, text) in texts do
      Work.say (Bytes.fullLines text).reverse.flatten
    return status

/-- Prints each line in reverse. -/
def rev : Work Nat :=
  withOptions { letters := [] } fun g => do
    let (texts, status) ← gather (fun path e => "cannot open ".toList ++ plainComplaint path e) g.operands
    for (_, text) in texts do
      for line in Bytes.fullLines text do
        let body := Bytes.withoutNewline line
        Work.say (body.reverse ++ line.drop body.length)
    return status

/-- Copies the input to the output and to files. -/
def tee : Work Nat :=
  withOptions { letters := letters "aip", names := [("append", 'a'), ("ignore-interrupts", 'i')] }
    fun g => do
      let text ← Work.input
      Work.say text
      let mut status := 0
      for path in g.operands do
        match ← Act.openForWriting (← read).streams path (g.has 'a') with
        | .ok id => let _ ← Act.write id text
        | .error e =>
          Work.complain (plainComplaint path e)
          status := 1
      return status

/-! ### Starts and ends -/

/-- How much of an input is asked for. -/
inductive Portion where
  | first (n : Nat)
  | allButLast (n : Nat)
  | last (n : Nat)
  | from (n : Nat)

/-- A part of a list. -/
def Portion.of {α : Type} (p : Portion) (items : List α) : List α :=
  match p with
  | first n => items.take n
  | allButLast n => items.take (items.length - n)
  | last n => items.drop (items.length - n)
  | .from n => items.drop (n - 1)

/-- A count with a letter for thousands or millions after it. -/
def readSize? (text : Bytes) : Option Nat :=
  let digits := text.takeWhile Char.isDigit
  let unit? : Option Nat :=
    match String.ofList (text.drop digits.length) with
    | "" => some 1
    | "b" => some 512
    | "k" | "K" | "KiB" => some 1024
    | "kB" | "KB" => some 1000
    | "M" | "MiB" => some (1024 * 1024)
    | "MB" => some 1000000
    | _ => none
  match Bytes.toNat? digits, unit? with
  | some n, some unit => some (n * unit)
  | _, _ => none

/-- The portion for `head`. -/
def headPortion? (value : Bytes) : Option Portion :=
  match value with
  | '-' :: n => (readSize? n).map .allButLast
  | '+' :: n | n => (readSize? n).map .first

/-- The portion for `tail`. -/
def tailPortion? (value : Bytes) : Option Portion :=
  match value with
  | '+' :: n => (readSize? n).map .from
  | '-' :: n | n => (readSize? n).map .last

/-- A first word that is a count with a dash or a plus sign before it, as an option. -/
def oldCount (plus : Bool) (args : List Bytes) : List Bytes :=
  match args with
  | (sign :: digits) :: rest =>
    let body := digits.takeWhile Char.isDigit
    let unit := digits.drop body.length
    if body.isEmpty || (sign ≠ '-' && !(plus && sign = '+')) then args
    else
      let value := if sign = '+' then '+' :: body else body
      if unit.isEmpty || unit = ['l'] then ('-' :: 'n' :: value) :: rest
      else if unit = ['c'] then ('-' :: 'c' :: value) :: rest
      else args
  | args => args

/-- Prints a portion of each file, with its name above it if there are several. -/
def excerpt (portion? : Bytes → Option Portion) (default : Portion) (plus : Bool) : Work Nat := do
  let shape : OptionShape :=
    { letters := letters "c:fF:n:qvz"
      names := [("bytes", 'c'), ("lines", 'n'), ("quiet", 'q'), ("silent", 'q'), ("verbose", 'v')] }
  withReader (fun job => { job with args := oldCount plus job.args }) do
    withOptions shape fun g => do
      let choice : Option (Bool × Bytes) :=
        match g.lastOf "cn" with
        | some 'c' => (g.value? 'c').map fun v => (true, v)
        | some _ => (g.value? 'n').map fun v => (false, v)
        | none => none
      let bytes := (choice.map (·.1)).getD false
      match choice.map fun v => (portion? v.2, v.2) with
      | some (none, value) =>
        Work.fail 1 ("invalid number of ".toList ++ (if bytes then "bytes" else "lines").toList ++
          ": ".toList ++ quoted value)
      | found =>
        let portion : Portion := (found.bind (·.1)).getD default
        let headed := !g.has 'q' && (g.has 'v' || 1 < g.operands.length)
        let paths := if g.operands.isEmpty then [['-']] else g.operands
        let mut status := 0
        let mut first := true
        for path in paths do
          match ← read path with
          | .error e =>
            Work.complain (complaint path e)
            status := 1
          | .ok (id, text) =>
            let part := if bytes then portion.of text else (portion.of (Bytes.fullLines text)).flatten
            if headed then
              let name := if path = ['-'] then "standard input".toList else path
              Work.say ((if first then [] else ['\n']) ++ "==> ".toList ++ name ++ " <==\n".toList)
            Work.say part
            first := false
            match portion with
            | .first _ => Act.skip id part.length
            | _ => Act.skip id text.length
        return status
where
  /-- What is there to be read, without reading it. -/
  read (path : Bytes) : Work (Except FileError (Nat × Bytes)) := do
    let opened ←
      if path = ['-'] then pure (((← ReaderT.read).streams.lookup 0).elim (.error .notFound) .ok)
      else Act.openForReading (← ReaderT.read).streams path
    match opened with
    | .error e => return .error e
    | .ok id =>
      if ← Act.isDirectoryChannel id then return .error .isDirectory
      return .ok (id, ← Act.pending id)
  /-- What is said about a file that is not accessible. -/
  complaint (path : Bytes) (e : FileError) : Bytes :=
    if e = .isDirectory then failedTo "error reading" path e
    else "cannot open ".toList ++ quoted path ++ " for reading: ".toList ++ e.reason

/-- Prints the start of each file. -/
def head : Work Nat :=
  excerpt headPortion? (.first 10) false

/-- Prints the end of each file. -/
def tail : Work Nat :=
  excerpt tailPortion? (.last 10) true

/-! ### Counts -/

/-- The number of words, `inWord` telling whether one has started already. -/
def countWords (inWord : Bool) : Bytes → Nat
  | [] => 0
  | c :: rest =>
    if Bytes.isSpace c then countWords false rest
    else (if inWord then 0 else 1) + countWords true rest

/-- The counts that `wc` gives of a text: lines, words, characters, bytes and the
    longest line. -/
def countsOf (g : Given) (text : Bytes) : List Nat :=
  let all := g.options.isEmpty
  (if all || g.has 'l' then [text.count '\n'] else []) ++
    (if all || g.has 'w' then [countWords false text] else []) ++
    (if g.has 'm' then [text.length] else []) ++
    (if all || g.has 'c' then [text.length] else []) ++
    (if g.has 'L' then [((Bytes.lines text).map List.length).foldl max 0] else [])

/-- Prints counts of each file, and of all together if there are several. -/
def wc : Work Nat :=
  let names := [("bytes", 'c'), ("lines", 'l'), ("words", 'w'), ("chars", 'm'),
    ("max-line-length", 'L')]
  withOptions { letters := letters "clLmw", names := names } fun g => do
    let piped ← do
      match (← read).streams.lookup 0 with
      | some id =>
        match ← Act.channel id with
        | .file _ _ _ => pure false
        | _ => pure true
      | none => pure true
    let (texts, status) ← gather plainComplaint g.operands
    let rows := texts.map fun t => (countsOf g t.2, t.1)
    let columns := (countsOf g []).length
    let sizes := (texts.map fun t => t.2.length).foldl (· + ·) 0
    let usesInput := g.operands.isEmpty || g.operands.contains ['-']
    let width :=
      if columns = 1 && g.operands.length ≤ 1 then 1
      else max (Bytes.ofNat sizes).length (if usesInput && piped then 7 else 1)
    let row (counts : List Nat) (name : Bytes) : Work Unit :=
      Work.sayLine (Bytes.join [' '] (counts.map fun n => Bytes.padLeft width ' ' (Bytes.ofNat n)) ++
        (if name.isEmpty then [] else ' ' :: name))
    for (counts, path) in rows do
      row counts (if g.operands.isEmpty then [] else path)
    if 1 < g.operands.length then
      let total := rows.foldl (fun sums r => List.zipWith (· + ·) sums r.1) (List.replicate columns 0)
      row total "total".toList
    return status

end Lifelines.Utility
