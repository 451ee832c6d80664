import Lifelines.Pattern.Glob
import Lifelines.Pattern.RegexText
import Lifelines.Utility.Paths

/-!
# Searching

Lines are *selected* if they match one of some patterns, or, if that is asked
for, if they match none. Printed are the lines that are selected, with those
around them, or only what matches, or how many there are, or in which files.

* `SearchOrder`: what is searched for;
* `grep`.
-/

namespace Lifelines.Utility

open Pattern

/-- How patterns are written. -/
inductive PatternStyle where
  | basic
  | extended
  | fixed
  deriving DecidableEq

/-- What is searched for in a line. -/
structure SearchOrder where
  pattern : Regex
  /-- Whether only whole words match. -/
  words : Bool
  /-- Whether lines that do not match are selected. -/
  inverted : Bool

namespace SearchOrder

/-- Whether a part of a line stands between the edges of words. -/
def isWhole (line : Array Char) (start stop : Nat) : Bool :=
  !Regex.isWordBefore line start && !Regex.isWordAt line stop

/-- The match at a place: the longest, or the longest that is a whole word. -/
def matchAt? (o : SearchOrder) (line : Array Char) (start : Nat) : Option Regex.Found :=
  let places := o.pattern.ends line o.pattern.refersBack ⟨start, []⟩
  let places := if o.words then places.filter fun h => isWhole line start h.position else places
  (Regex.longest places).map fun h => ⟨start, h.position, h.groups⟩

/-- The first match from a place on. -/
def find? (o : SearchOrder) (line : Array Char) (start : Nat) : Option Regex.Found :=
  (List.range (line.size + 1 - start)).findSome? fun k => o.matchAt? line (start + k)

/-- Whether a line is selected. -/
def selects (o : SearchOrder) (line : Bytes) : Bool :=
  (o.find? line.toArray 0).isSome != o.inverted

/-- The matches in a line that are not empty. -/
def matchesIn (o : SearchOrder) (line : Array Char) : (fuel : Nat) → (start : Nat) → List Regex.Found
  | 0, _ => []
  | fuel + 1, start =>
    match o.find? line start with
    | none => []
    | some f =>
      if f.start = f.stop then o.matchesIn line fuel (f.stop + 1)
      else f :: o.matchesIn line fuel f.stop

end SearchOrder

/-- A line that is searched: its number, where it starts and whether it is selected. -/
structure SearchedLine where
  number : Nat
  offset : Nat
  text : Bytes
  selected : Bool

/-- The lines of a text up to the one that is the last to be selected, and those after it,
    none of which is selected any more. -/
def searchedLines (o : SearchOrder) : (number offset : Nat) → (left : Option Nat) → List Bytes →
    List SearchedLine
  | _, _, _, [] => []
  | number, offset, left, line :: rest =>
    let selected := left ≠ some 0 && o.selects line
    ⟨number, offset, line, selected⟩ ::
      searchedLines o (number + 1) (offset + line.length + 1)
        (if selected then left.map (· - 1) else left) rest

/-- Says which lines are printed since they are near to a selected one: at most `before`
    lines before it or `after` lines after it. With a limit on the number of lines, nothing
    is printed after the next line that would be selected. -/
def shownLines? (before after : Nat) (lines : List SearchedLine) : List (SearchedLine × Bool) :=
  let ahead (ls : List SearchedLine) : Bool := (ls.take (before + 1)).any (·.selected)
  let rec go : Option Nat → List SearchedLine → List (SearchedLine × Bool)
    | _, [] => []
    | since, l :: rest =>
      let since : Option Nat := if l.selected then some 0 else since.map (· + 1)
      (l, ahead (l :: rest) || since.any fun n => n ≤ after) :: go since rest
  go none lines

/-- What is put before a line: the name of the file, its number, where it starts. -/
def searchLabel (g : Given) (name? : Option Bytes) (mark : Char) (number offset : Nat) : Bytes :=
  let part (wanted : Bool) (text : Bytes) : Bytes := if wanted then text ++ [mark] else []
  part name?.isSome (name?.getD []) ++ part (g.has 'n') (Bytes.ofNat number) ++
    part (g.has 'b') (Bytes.ofNat offset)

/-- How many lines are printed around a selected one. -/
def contextOf (g : Given) : Except Bytes (Nat × Nat) := do
  let digits := (g.options.map (·.1)).filter Char.isDigit
  let both ← number (if digits.isEmpty then (g.value? 'C') else some digits)
  let before ← number (g.value? 'B')
  let after ← number (g.value? 'A')
  return (before.getD (both.getD 0), after.getD (both.getD 0))
where
  /-- A number of lines, if it is given. -/
  number : Option Bytes → Except Bytes (Option Nat)
    | none => .ok none
    | some word =>
      match Bytes.toNat? word with
      | some n => .ok (some n)
      | none => .error (word ++ ": invalid context length argument".toList)

/-- Searches a text; answers whether a line is selected. -/
def searchText (g : Given) (o : SearchOrder) (context : Nat × Nat) (limit? : Option Nat)
    (name? : Option Bytes) (shownName : Bytes) (text : Bytes) : Work Bool := do
  let separator := if g.has 'z' then '\x00' else '\n'
  let pieces := Bytes.splitOn separator text
  let pieces := if pieces.getLast? == some [] then pieces.dropLast else pieces
  let lines := searchedLines o 1 0 limit? pieces
  let count := (lines.filter (·.selected)).length
  let newline : Bytes := [separator]
  if g.has 'q' then return count ≠ 0
  else if g.has 'l' || g.has 'L' then
    if (count ≠ 0) != g.has 'L' then Work.sayLine shownName
    return (count ≠ 0) != g.has 'L'
  else if g.has 'c' then
    Work.sayLine (searchLabel {} name? ':' 0 0 ++ Bytes.ofNat count)
    return count ≠ 0
  else if !g.has 'a' && !g.has 'z' && text.contains '\x00' then
    if count ≠ 0 then
      Work.complain (shownName ++ ": binary file matches".toList)
    return count ≠ 0
  else if g.has 'o' then
    if !o.inverted then
      for l in lines do
        if l.selected then
          let chars := l.text.toArray
          for f in o.matchesIn chars (chars.size + 1) 0 do
            Work.say (searchLabel g name? ':' l.number (l.offset + f.start) ++ f.text chars ++ newline)
    return count ≠ 0
  else
    let (before, after) := context
    let mut previous : Option Nat := none
    for (l, shown) in shownLines? before after lines do
      if shown then
        let gap := previous.any fun n => n + 1 < l.number
        if gap && (0 < before || 0 < after) then Work.say "--\n".toList
        previous := some l.number
        Work.say (searchLabel g name? (if l.selected then ':' else '-') l.number l.offset ++ l.text ++ newline)
    return count ≠ 0

/-- The pattern that some texts stand for, each line being one of them. -/
def searchPattern (style : PatternStyle) (g : Given) (texts : List Bytes) :
    Except Pattern.RegexFault Regex := do
  let one (text : Bytes) : Except Pattern.RegexFault Regex := do
    let r ←
      match style with
      | .fixed => pure (Regex.ofText text)
      | .basic => RegexText.read? { lenient := true } text
      | .extended => RegexText.read? { extended := true, lenient := true } text
    let r := if g.has 'x' then .both .atStart (.both r .atEnd) else r
    return if g.has 'i' || g.has 'y' then r.foldCase else r
  match ← texts.mapM one with
  | [] => return .both .atEnd .any
  | r :: rs => return rs.foldl .either r

/-- Paths with those below them that are to be searched. -/
def searchPaths (g : Given) (paths : List Bytes) : Work (List (Bytes × Bool)) := do
  let fits (c : Char) (name : Bytes) : Bool :=
    (g.values c).any fun p => (Glob.ofText p).fits name
  let mut found := #[]
  for path in paths do
    if (← Act.kind? path) == some .directory then
      for (below, kind) in ← allBelow path do
        let name := baseName below
        let wanted := (!(g.has 'I') || fits 'I' name) && !fits 'E' name
        if kind ≠ .directory && wanted then found := found.push (below, true)
    else found := found.push (path, false)
  return found.toList

/-- Searches files for lines that match patterns. -/
def searchWith (style : PatternStyle) : Work Nat := do
  let names := [("extended-regexp", '\x01'), ("fixed-strings", '\x02'), ("basic-regexp", '\x03'), ("regexp", 'e'), ("file", 'f'),
    ("ignore-case", 'i'), ("invert-match", 'v'), ("word-regexp", 'w'), ("line-regexp", 'x'),
    ("count", 'c'), ("files-without-match", 'L'), ("files-with-matches", 'l'), ("max-count", 'm'),
    ("only-matching", 'o'), ("quiet", 'q'), ("silent", 'q'), ("no-messages", 's'),
    ("byte-offset", 'b'), ("with-filename", 'H'), ("no-filename", 'h'), ("line-number", 'n'),
    ("initial-tab", 'T'), ("null-data", 'z'), ("after-context", 'A'), ("before-context", 'B'),
    ("context", 'C'), ("text", 'a'), ("recursive", 'r'), ("dereference-recursive", 'R'),
    ("include", 'I'), ("exclude", '\x04'), ("color", '\x05'), ("colour", '\x05'), ("line-buffered", 'u')]
  let codes : List (Char × Taking) :=
    [('\x01', .nothing), ('\x02', .nothing), ('\x03', .nothing), ('\x04', .value), ('\x05', .maybe)]
  let shape : OptionShape :=
    { letters := codes ++ letters "EFGPe:f:iyvwxcLlm:oqsbHhnTzA:B:C:arRI:uZU0123456789", names := names, failure := 2 }
  match readOptions shape (← read).args with
  | .error e =>
    Work.complain e.message
    usage
  | .ok g =>
    let renamed : Given :=
      { g with options := g.options.map fun (c, v) =>
          (match c with
            | '\x01' => ('E', v) | '\x02' => ('F', v) | '\x03' => ('G', v) | '\x04' => ('X', v)
            | c => (c, v)) }
    -- the patterns for names to leave out are kept apart from the letter for extended patterns
    let style : PatternStyle :=
      match renamed.lastOf "EFGP" with
      | some 'E' | some 'P' => .extended
      | some 'F' => .fixed
      | some _ => .basic
      | none => style
    let excluded : Given :=
      { renamed with options := (renamed.options.filter fun o => o.1 ≠ 'E').map fun o =>
          if o.1 = 'X' then ('E', o.2) else o }
    let (given, fault) ← patternTexts g
    if fault then return 2
    let patterns? := if g.has 'e' || g.has 'f' then some given else
      (g.operands.head?).map fun p => Bytes.splitOn '\n' p
    let operands := if g.has 'e' || g.has 'f' then g.operands else g.operands.drop 1
    match patterns? with
    | none => usage
    | some patterns =>
      match contextOf g, (g.value? 'm').map Bytes.toNat? with
      | .error text, _ => Work.fail 2 text
      | .ok _, some none => Work.fail 2 "invalid max count".toList
      | .ok context, limit =>
        match searchPattern style g patterns with
        | .error e => Work.fail 2 e.message.toList
        | .ok pattern =>
          let o : SearchOrder := ⟨pattern, g.has 'w' && !g.has 'x', g.has 'v'⟩
          let recursive := g.has 'r' || g.has 'R'
          let paths := if !operands.isEmpty then operands else if recursive then [['.']] else [['-']]
          let places ← if recursive then searchPaths excluded paths else pure (paths.map fun p => (p, false))
          let named := (recursive && (1 < paths.length || (places.any (·.2)))) || 1 < operands.length
          let named := (named || g.has 'H') && g.lastOf "Hh" ≠ some 'h'
          let mut found := false
          let mut failed := false
          for (path, _) in places do
            match ← Work.contents path with
            | .error e =>
              if !g.has 's' then Work.complain (plainComplaint path e)
              failed := true
            | .ok text =>
              let shown := if path = ['-'] then "(standard input)".toList else
                if operands.isEmpty then (Bytes.dropStart? ['.', '/'] path).getD path else path
              let name? := if named then some shown else none
              if ← searchText g o context (limit.bind id) name? shown text then found := true
          return if failed && !(g.has 'q' && found) then 2 else if found then 0 else 1
where
  /-- Says how it is to be used. -/
  usage : Work Nat := do
    let name := (← read).name
    Work.note ("Usage: ".toList ++ name ++ " [OPTION]... PATTERNS [FILE]...".toList)
    Work.note ("Try '".toList ++ name ++ " --help' for more information.".toList)
    return 2
  /-- The patterns that options give, and whether a file of them is not accessible. -/
  patternTexts (g : Given) : Work (List Bytes × Bool) := do
    let mut texts := #[]
    for (c, value) in g.options do
      if c = 'e' then texts := texts ++ (Bytes.splitOn '\n' value).toArray
      else if c = 'f' then
        match ← Work.contents value with
        | .ok text => texts := texts ++ (Bytes.lines text).toArray
        | .error e =>
          Work.complain (plainComplaint value e)
          return (texts.toList, true)
    return (texts.toList, false)

/-- Searches for basic patterns, unless options say otherwise. -/
def grep : Work Nat :=
  searchWith .basic

end Lifelines.Utility
