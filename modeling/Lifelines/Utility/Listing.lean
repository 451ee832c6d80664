import Lifelines.Utility.Permission

/-!
# Listings

Utilities that tell what is in a directory and what a file is like. Every file
is of one owner, and no file has a date other than the first.

* `ls`: the names in directories;
* `stat`: single properties of files.
-/

namespace Lifelines.Utility

/-- What a listing shows of an entry. -/
structure Entry where
  name : Bytes
  kind : Act.FileKind

namespace Entry

/-- The permissions of an entry. -/
def mode (e : Entry) : Nat :=
  match e.kind with
  | .directory | .file _ true => 0o755
  | .file _ false => 0o644
  | .device => 0o666

/-- The size of an entry. -/
def size (e : Entry) : Nat :=
  match e.kind with
  | .file n _ => n
  | .directory => 4096
  | .device => 0

/-- The blocks of a thousand bytes that an entry takes, four at a time. -/
def blocks (e : Entry) : Nat :=
  (e.size + 4095) / 4096 * 4

/-- The letter for the kind of an entry. -/
def letter (e : Entry) : Char :=
  match e.kind with
  | .file _ _ => '-'
  | .directory => 'd'
  | .device => 'c'

/-- The permissions of an entry in letters, after the letter for its kind. -/
def modeText (e : Entry) : Bytes :=
  e.letter :: Permission.text e.mode

/-- The name of an entry as the options of `ls` show it. -/
def shown (g : Given) (e : Entry) : Bytes :=
  let name := if g.has 'Q' then ['"'] ++ e.name.flatMap (fun c => if c = '"' || c = '\\' then ['\\', c] else [c]) ++ ['"'] else e.name
  let mark : Bytes :=
    match e.kind with
    | .directory => if g.has 'F' || g.has 'p' then ['/'] else []
    | .file _ true => if g.has 'F' then ['*'] else []
    | _ => []
  name ++ mark

/-- Lines with the properties of entries, in columns. -/
def longLines (g : Given) (entries : List Entry) : List Bytes :=
  let links (e : Entry) : Bytes := if e.kind = .directory then ['2'] else ['1']
  let width (f : Entry → Bytes) : Nat := (entries.map fun e => (f e).length).foldl max 0
  let size (e : Entry) : Bytes := Bytes.ofNat e.size
  let owner : Bytes := if g.has 'n' then "0 0".toList else "root root".toList
  entries.map fun e =>
    Bytes.join [' '] [e.modeText, Bytes.padLeft (width links) ' ' (links e), owner,
      Bytes.padLeft (width size) ' ' (size e), "Jan  1  1970".toList, e.shown g]

end Entry

/-- The lines for some entries. -/
def entryLines (g : Given) (entries : List Entry) : List Bytes :=
  let entries := if g.has 'S' then entries.mergeSort fun a b => b.size ≤ a.size else entries
  let entries := if g.has 'r' then entries.reverse else entries
  match g.lastOf "1lnmCx" with
  | some 'l' | some 'n' => Entry.longLines g entries
  | some 'm' =>
    if entries.isEmpty then [] else [Bytes.join ", ".toList (entries.map (Entry.shown g))]
  | some 'C' | some 'x' =>
    if entries.isEmpty then [] else [Bytes.join [' ', ' '] (entries.map (Entry.shown g))]
  | _ =>
    entries.map fun e => (if g.has 's' then Bytes.ofNat e.blocks ++ [' '] else []) ++ e.shown g

/-- The entries of the directory at a location that the options show. -/
def entriesOf (g : Given) (l : Location) : Work (List Entry) := do
  let files ← Work.files
  let kindOf (l : Location) : Act.FileKind :=
    match files.node? l with
    | some (.file contents executable) => .file contents.size executable
    | _ => .directory
  let named := (files.names l).map fun name => ⟨Bytes.ofString name, kindOf (l ++ [name])⟩
  let visible := named.filter fun (e : Entry) => g.has 'a' || g.has 'A' || e.name.head? ≠ some '.'
  return if g.has 'a' then ⟨['.'], .directory⟩ :: ⟨['.', '.'], .directory⟩ :: visible else visible

/-- Lists a directory, and with the option `R` those below it; `headed` says whether its
    path stands above, `first` whether nothing has been printed before. The tree is at
    most `fuel` deep. -/
def listDirectory (g : Given) (headed : Bool) : (fuel : Nat) → (first : Bool) → (path : Bytes) →
    Location → Work Unit
  | 0, _, _, _ => return
  | fuel + 1, first, path, l => do
    let entries ← entriesOf g l
    if headed then Work.say ((if first then [] else ['\n']) ++ path ++ [':', '\n'])
    match g.lastOf "1lnmCx" with
    | some 'l' | some 'n' => Work.sayLine ("total ".toList ++ Bytes.ofNat ((entries.map Entry.blocks).foldl (· + ·) 0))
    | _ => if g.has 's' then Work.sayLine ("total ".toList ++ Bytes.ofNat ((entries.map Entry.blocks).foldl (· + ·) 0))
    Work.say (Bytes.ofLines (entryLines g entries))
    if g.has 'R' then
      let below := entries.filter fun e => e.kind = .directory && e.name ≠ ['.'] && e.name ≠ ['.', '.']
      for e in if g.has 'r' then below.reverse else below do
        listDirectory g true fuel false
          (if path.getLast? = some '/' then path ++ e.name else path ++ '/' :: e.name)
          (l ++ [e.name.toText])

/-- Lists files and directories. -/
def ls : Work Nat :=
  let names := [("all", 'a'), ("almost-all", 'A'), ("directory", 'd'), ("classify", 'F'),
    ("recursive", 'R'), ("reverse", 'r'), ("size", 's'), ("quote-name", 'Q'), ("color", 'c'),
    ("group-directories-first", 'g')]
  let shape : OptionShape :=
    { letters := ('c', .maybe) :: letters "1aAbBCdfFGhHiklLmnNopqQrRsStTuUvw:xXZg", names := names, failure := 2 }
  withOptions shape fun g => do
    let paths := if g.operands.isEmpty then [['.']] else g.operands
    let mut status := 0
    let mut plain : Array Entry := #[]
    let mut directories : Array Bytes := #[]
    for path in paths do
      match ← Act.kind path with
      | .error e =>
        Work.complain (failedTo "cannot access" path e)
        status := 2
      | .ok kind =>
        if kind = .directory && !g.has 'd' then directories := directories.push path
        else plain := plain.push ⟨path, kind⟩
    let inOrder (a b : Bytes) : Bool := !(Bytes.before b a)
    let files := plain.toList.mergeSort fun a b => inOrder a.name b.name
    Work.say (Bytes.ofLines (entryLines g files))
    let mut first := plain.isEmpty
    let depth := (← Work.files).entries.length + 2
    let sorted := directories.toList.mergeSort inOrder
    for path in if g.has 'r' then sorted.reverse else sorted do
      match (← Work.files).locate path.toText with
      | .ok l => listDirectory g (1 < paths.length || g.has 'R') depth first path l
      | .error _ => pure ()
      first := false
    return status

/-! ### Properties -/

/-- A property of a file, by the letter that asks for it. -/
def property (e : Entry) (c : Char) : Bytes :=
  match c with
  | 'n' => e.name
  | 'N' => quoted e.name
  | 's' => Bytes.ofNat e.size
  | 'a' => Nat.toDigits 8 e.mode
  | 'A' => e.modeText
  | 'F' =>
    match e.kind with
    | .file 0 _ => "regular empty file".toList
    | .file _ _ => "regular file".toList
    | .directory => "directory".toList
    | .device => "character special file".toList
  | 'h' => if e.kind = .directory then ['2'] else ['1']
  | 'u' | 'g' | 'X' | 'Y' | 'Z' | 'W' => ['0']
  | 'U' | 'G' => "root".toList
  | 'f' => Nat.toDigits 16 ((if e.kind = .directory then 0o40000 else 0o100000) + e.mode)
  | 'b' => Bytes.ofNat (e.blocks * 2)
  | 'B' => "512".toList
  | 'o' => "4096".toList
  | '%' => ['%']
  | _ => ['?']

/-- Properties as a format asks for them, with escapes if they are read. -/
def properties (escapes : Bool) (e : Entry) : Bytes → Bytes
  | '%' :: c :: rest => property e c ++ properties escapes e rest
  | '\\' :: c :: rest =>
    if escapes then
      (match c with
        | 'n' => ['\n']
        | 't' => ['\t']
        | '\\' => ['\\']
        | '0' => ['\x00']
        | c => ['\\', c]) ++ properties escapes e rest
    else '\\' :: c :: properties escapes e rest
  | c :: rest => c :: properties escapes e rest
  | [] => []

/-- Prints properties of files. -/
def stat : Work Nat :=
  let names := [("format", 'c'), ("printf", 'p'), ("dereference", 'L'), ("terse", 't'), ("file-system", 'f')]
  withOptions { letters := letters "c:fLtp:", names := names } fun g => do
    if g.operands.isEmpty then return ← missingOperand []
    let mut status := 0
    for path in g.operands do
      match ← Act.kind path with
      | .error e =>
        Work.complain (failedTo "cannot statx" path e)
        status := 1
      | .ok kind =>
        match g.lastOf "cp" with
        | some 'p' => Work.say (properties true ⟨path, kind⟩ ((g.value? 'p').getD []))
        | _ =>
          let format := (g.value? 'c').getD "%n %s %b %f %u %g %h %X %Y %Z".toList
          Work.sayLine (properties false ⟨path, kind⟩ format)
    return status

end Lifelines.Utility
