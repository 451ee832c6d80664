import Lifelines.Utility.Paths

/-!
# Comparisons of files

Two texts are compared byte by byte, or line by line. Line by line, what they
have in common is a common subsequence that is as long as possible, and the
differences between them are the *changes* that lead from one to the other; a
change that could be at several places is at the last of them.

* `changesBetween`: the changes that lead from one text to another;
* `cmp`, `diff`.
-/

namespace Lifelines.Utility

/-! ### Byte by byte -/

/-- The texts of two files. -/
def readTwo (a b : Bytes) (use : Bytes → Bytes → Work Nat) : Work Nat := do
  match ← Work.contents a with
  | .error e => Work.fail 2 (plainComplaint a e)
  | .ok s =>
    match ← Work.contents b with
    | .error e => Work.fail 2 (plainComplaint b e)
    | .ok t => use s t

/-- Complains about a use that is not as it should be, and points to the help. -/
def misuseNamed (text : Bytes) : Work Nat := do
  Work.complain text
  let name := (← read).name
  Work.complain ("Try '".toList ++ name ++ " --help' for more information.".toList)
  return 2

/-- A byte as `cmp` shows it. -/
def shownByteText (c : Char) : Bytes :=
  let low (n : Nat) : Bytes :=
    if n < 32 then ['^', Char.ofNat (n + 64)] else if n = 127 then ['^', '?'] else [Char.ofNat n]
  if c.toNat < 128 then low c.toNat else ['M', '-'] ++ low (c.toNat - 128)

/-- Compares two files byte by byte. -/
def cmp : Work Nat := do
  let names := [("print-bytes", 'b'), ("ignore-initial", 'i'), ("verbose", 'l'), ("bytes", 'n'),
    ("quiet", 's'), ("silent", 's')]
  match readOptions { letters := letters "bci:ln:s", names := names } (← read).args with
  | .error e => misuseNamed e.message
  | .ok g =>
    match g.operands with
    | [] => misuseNamed ("missing operand after ".toList ++ quoted (← read).name)
    | _ :: _ :: _ :: _ :: extra :: _ => misuseNamed ("extra operand ".toList ++ quoted extra)
    | a :: others =>
      let b := others.headD ['-']
      let skipOf (k : Nat) : Nat :=
        match (g.operands[k]?), (g.value? 'i').map (Bytes.splitOn ':') with
        | some word, _ => (Bytes.toNat? word).getD 0
        | none, some words => (((words[k - 2]?).orElse fun _ => words.head?).bind Bytes.toNat?).getD 0
        | none, none => 0
      readTwo a b fun s t => do
        let cutTo (text : Bytes) : Bytes :=
          match (g.value? 'n').bind Bytes.toNat? with
          | some n => text.take n
          | none => text
        let s := cutTo (s.drop (skipOf 2))
        let t := cutTo (t.drop (skipOf 3))
        let different := ((s.zip t).zipIdx).filter fun p => p.1.1 ≠ p.1.2
        if g.has 's' then return if s = t then 0 else 1
        let octal (c : Char) : Bytes := Bytes.padLeft 3 ' ' (Nat.toDigits 8 c.toNat)
        let short := if s.length < t.length then a else b
        let length := min s.length t.length
        if g.has 'l' then
          let width := (Bytes.ofNat (max s.length t.length)).length
          for ((x, y), k) in different do
            let bytes :=
              if g.has 'b' then
                octal x ++ [' '] ++ Bytes.padRight 4 (shownByteText x) ++ [' '] ++ octal y ++ [' '] ++ shownByteText y
              else octal x ++ [' '] ++ octal y
            Work.sayLine (Bytes.padLeft width ' ' (Bytes.ofNat (k + 1)) ++ [' '] ++ bytes)
          if s.length ≠ t.length then
            Work.complain ("EOF on ".toList ++ short ++
              (if length = 0 then " which is empty".toList
                else " after byte ".toList ++ Bytes.ofNat length))
          return if s = t then 0 else 1
        match different with
        | ((x, y), k) :: _ =>
          let line := (s.take k).count '\n' + 1
          let shown :=
            if g.has 'b' then
              " is ".toList ++ octal x ++ [' '] ++ shownByteText x ++ [' '] ++ octal y ++ [' '] ++ shownByteText y
            else []
          Work.sayLine (a ++ [' '] ++ b ++ " differ: ".toList ++ (if g.has 'b' then "byte " else "char ").toList ++
            Bytes.ofNat (k + 1) ++ ", line ".toList ++ Bytes.ofNat line ++ shown)
          return 1
        | [] =>
          if s.length = t.length then return 0
          let common := s.take length
          Work.complain ("EOF on ".toList ++ short ++
            (if length = 0 then " which is empty".toList
              else " after byte ".toList ++ Bytes.ofNat length ++
                (if common.getLast? = some '\n' then ", line ".toList ++ Bytes.ofNat (common.count '\n')
                  else ", in line ".toList ++ Bytes.ofNat (common.count '\n' + 1))))
          return 1

/-! ### Line by line -/

/-- A change: lines of one text, counted from zero, that are replaced by lines of the
    other. -/
structure Change where
  start : Nat
  count : Nat
  newStart : Nat
  newCount : Nat
  deriving DecidableEq

/-- The lengths of the longest common subsequences of the ends of two lists, for the ends
    of the second list, the longest first; the last is zero. -/
def commonLengths {α : Type} [DecidableEq α] (b : List α) : List α → List Nat
  | [] => List.replicate (b.length + 1) 0
  | x :: a => row x b (commonLengths b a)
where
  /-- The lengths with one item more in the first list. -/
  row (x : α) : List α → List Nat → List Nat
    | y :: b, below :: rest =>
      let after := row x b rest
      let best := if x = y then rest.headD 0 + 1 else max below (after.headD 0)
      best :: after
    | _, _ => [0]

/-- Which items of two lists are left out of a common subsequence that is as long as
    possible: for each step, whether an item of the first is taken, and of the second. -/
def stepsBetween {α : Type} [DecidableEq α] : (a b : List α) → (table : List (List Nat)) → (fuel : Nat) →
    List (Bool × Bool)
  | _, _, _, 0 => []
  | [], [], _, _ => []
  | [], _ :: b, table, fuel + 1 => (false, true) :: stepsBetween [] b table fuel
  | _ :: a, [], table, fuel + 1 => (true, false) :: stepsBetween a [] (table.drop 1) fuel
  | x :: a, y :: b, table, fuel + 1 =>
    let skip := (table.length - 1) - (a.length + 1)
    let here := (table.drop skip).headD []
    let below := (table.drop (skip + 1)).headD []
    let column := here.length - 1 - (b.length + 1)
    if x = y then (true, true) :: stepsBetween a b table fuel
    else if (here.drop (column + 1)).headD 0 ≤ (below.drop column).headD 0 then
      (true, false) :: stepsBetween a (y :: b) table fuel
    else (false, true) :: stepsBetween (x :: a) b table fuel

/-- The changes of some steps, from the places where they start. -/
def changesOf : (i j : Nat) → (pending : Option Change) → List (Bool × Bool) → List Change
  | _, _, pending, [] => pending.toList
  | i, j, pending, (true, true) :: steps => pending.toList ++ changesOf (i + 1) (j + 1) none steps
  | i, j, pending, (old, new) :: steps =>
    let c := pending.getD ⟨i, 0, j, 0⟩
    let o := if old then 1 else 0
    let n := if new then 1 else 0
    changesOf (i + o) (j + n) (some { c with count := c.count + o, newCount := c.newCount + n }) steps

/-- Moves a change to the last place where it says the same; it must not go as far as
    `limit`, a place in the first text. -/
def slide {α : Type} [DecidableEq α] (a b : Array α) (limit : Nat) : (fuel : Nat) → Change → Change
  | 0, c => c
  | fuel + 1, c =>
    let moved : Change := { c with start := c.start + 1, newStart := c.newStart + 1 }
    if limit ≤ c.start + c.count then c
    else if c.newCount = 0 then
      if c.count ≠ 0 && a[c.start]? = a[c.start + c.count]? then slide a b limit fuel moved else c
    else if c.count = 0 then
      if b[c.newStart]? = b[c.newStart + c.newCount]? then slide a b limit fuel moved else c
    else c

/-- Moves each change to the last place where it says the same. -/
def slideAll {α : Type} [DecidableEq α] (a b : Array α) : List Change → List Change
  | [] => []
  | c :: rest =>
    let later := slideAll a b rest
    let limit := (later.head?.map fun d => d.start).getD a.size
    let moved := slide a b limit (a.size + b.size) c
    match later with
    | d :: others =>
      if moved.start + moved.count = d.start && moved.newStart + moved.newCount = d.newStart then
        { moved with count := moved.count + d.count, newCount := moved.newCount + d.newCount } :: others
      else moved :: later
    | [] => [moved]

/-- The table of common lengths, for all ends of the first list. -/
def lengthTable {α : Type} [DecidableEq α] (b : List α) : List α → List (List Nat)
  | [] => [List.replicate (b.length + 1) 0]
  | x :: a =>
    let table := lengthTable b a
    commonLengths.row x b (table.headD []) :: table

/-- The changes that lead from one list to another. -/
def changesBetween {α : Type} [DecidableEq α] (a b : List α) : List Change :=
  let steps := stepsBetween a b (lengthTable b a) (a.length + b.length + 1)
  slideAll a.toArray b.toArray (changesOf 0 0 none steps)

/-- A range of lines, counted from one; an empty one is named by the line before it. -/
def rangeText (start count : Nat) : Bytes :=
  if count = 0 then Bytes.ofNat start
  else if count = 1 then Bytes.ofNat (start + 1)
  else Bytes.ofNat (start + 1) ++ [','] ++ Bytes.ofNat (start + count)

/-- A line with a mark before it, and a note if it lacks its newline. -/
def markedLine (mark : String) (line : Bytes) : Bytes :=
  if line.getLast? = some '\n' then mark.toList ++ line
  else mark.toList ++ line ++ "\n\\ No newline at end of file\n".toList

/-- Some of the lines of a text, marked. -/
def markedLines (mark : String) (lines : Array Bytes) (start count : Nat) : Bytes :=
  ((lines.extract start (start + count)).toList.map (markedLine mark)).flatten

/-- A change as it is written by default. -/
def Change.text (a b : Array Bytes) (c : Change) : Bytes :=
  let letter := if c.count = 0 then 'a' else if c.newCount = 0 then 'd' else 'c'
  rangeText c.start c.count ++ [letter] ++ rangeText c.newStart c.newCount ++ ['\n'] ++
    markedLines "< " a c.start c.count ++
    (if letter = 'c' then "---\n".toList else []) ++
    markedLines "> " b c.newStart c.newCount

/-- Changes that are so near to each other that the lines around them meet. -/
def hunks (context : Nat) : List Change → List (List Change)
  | [] => []
  | c :: rest =>
    match hunks context rest with
    | (d :: ds) :: others =>
      if d.start ≤ c.start + c.count + 2 * context then (c :: d :: ds) :: others
      else [c] :: (d :: ds) :: others
    | others => [c] :: others

/-- A range as it is written above a hunk. -/
def hunkRange (start count : Nat) : Bytes :=
  if count = 1 then Bytes.ofNat (start + 1)
  else Bytes.ofNat (if count = 0 then start else start + 1) ++ [','] ++ Bytes.ofNat count

/-- A hunk with the lines around its changes. -/
def hunkText (context : Nat) (a b : Array Bytes) (changes : List Change) : Bytes :=
  match changes.head?, changes.getLast? with
  | some first, some last =>
    let before := min context first.start
    let stop := min a.size (last.start + last.count + context)
    let start := first.start - before
    let newStart := first.newStart - before
    let newStop := last.newStart + last.newCount + (stop - (last.start + last.count))
    let heading := "@@ -".toList ++ hunkRange start (stop - start) ++ " +".toList ++
      hunkRange newStart (newStop - newStart) ++ " @@\n".toList
    let (body, place) := changes.foldl (fun (text, place) c =>
      (text ++ markedLines " " a place (c.start - place) ++ markedLines "-" a c.start c.count ++
        markedLines "+" b c.newStart c.newCount, c.start + c.count)) (([] : Bytes), start)
    heading ++ body ++ markedLines " " a place (stop - place)
  | _, _ => []

/-- A line as far as the options look at it. -/
def comparedLine (g : Given) (line : Bytes) : Bytes :=
  let line := if g.has 'i' then Bytes.toLower line else line
  if g.has 'w' then line.filter fun c => !Bytes.isSpace c
  else if g.has 'b' then
    Bytes.join [' '] ((if line.head?.any Bytes.isSpace then [[]] else []) ++ Bytes.words line)
  else if g.has 'Z' then (line.reverse.dropWhile Bytes.isSpace).reverse
  else line

/-- Compares two files line by line and prints the changes; `heading` is printed above
    them. -/
def diffFiles (g : Given) (heading : Bytes) (a b : Bytes) : Work Nat := do
  let text (path other : Bytes) : Work (Except FileError Bytes) := do
    match ← Work.contents path with
    | .error .notFound =>
      if g.has 'N' then
        if (← Act.kind? other).isSome then return .ok []
      return .error .notFound
    | result => return result
  match ← text a b, ← text b a with
  | .ok s, .ok t =>
    let old := (Bytes.fullLines s).toArray
    let new := (Bytes.fullLines t).toArray
    let changes := changesBetween (old.toList.map (comparedLine g)) (new.toList.map (comparedLine g))
    let changes :=
      if g.has 'B' then
        changes.filter fun c =>
          !((old.extract c.start (c.start + c.count)).all (· = ['\n']) &&
            (new.extract c.newStart (c.newStart + c.newCount)).all (· = ['\n']))
      else changes
    if changes.isEmpty then
      if g.has 's' then
        Work.sayLine ("Files ".toList ++ a ++ " and ".toList ++ b ++ " are identical".toList)
      return 0
    if g.has 'q' then
      Work.sayLine ("Files ".toList ++ a ++ " and ".toList ++ b ++ " differ".toList)
      return 1
    Work.say heading
    if g.has 'u' || g.has 'U' then
      let context := ((g.value? 'U').bind Bytes.toNat?).getD 3
      let labels := g.values 'L'
      let date := "\t1970-01-01 00:00:00.000000000 +0000".toList
      Work.sayLine ("--- ".toList ++ (labels[0]?).getD (a ++ date))
      Work.sayLine ("+++ ".toList ++ (labels[1]?).getD (b ++ date))
      for hunk in hunks context changes do
        Work.say (hunkText context old new hunk)
    else
      for change in changes do
        Work.say (change.text old new)
    return 1
  | .error e, .ok _ => Work.fail 2 (plainComplaint a e)
  | .ok _, .error e => Work.fail 2 (plainComplaint b e)
  | .error e, .error d =>
    Work.complain (plainComplaint a e)
    Work.fail 2 (plainComplaint b d)

/-- Compares what is at two paths. The trees are at most `fuel` deep. -/
def diffPaths (g : Given) (options : Bytes) : (fuel : Nat) → (top : Bool) → (a b : Bytes) → Work Nat
  | 0, _, _, _ => return 2
  | fuel + 1, top, a, b => do
    let isDirectory (path : Bytes) : Work Bool := do
      return path ≠ ['-'] && (← Act.kind? path) == some .directory
    match ← isDirectory a, ← isDirectory b with
    | true, true =>
      if !top && !g.has 'r' then
        Work.sayLine ("Common subdirectories: ".toList ++ a ++ " and ".toList ++ b)
        return 0
      let files ← Work.files
      let names (path : Bytes) : List Bytes :=
        match files.locate path.toText with
        | .ok l => (files.names l).map Bytes.ofString
        | .error _ => []
      let old := names a
      let new := names b
      let all := (old ++ new.filter fun n => !old.contains n).mergeSort fun x y => !(Bytes.before y x)
      let mut status := 0
      for name in all do
        let only? : Option Bytes :=
          if g.has 'N' then none
          else if !new.contains name then some a else if !old.contains name then some b else none
        match only? with
        | some place =>
          Work.sayLine ("Only in ".toList ++ place ++ ": ".toList ++ name)
          status := max status 1
        | none => status := max status (← diffPaths g options fuel false (inside a name) (inside b name))
      return status
    | true, false =>
      if top then diffFiles g [] (inside a (baseName b)) b
      else
        Work.sayLine ("File ".toList ++ a ++ " is a directory while file ".toList ++ b ++ " is a regular file".toList)
        return 1
    | false, true =>
      if top then diffFiles g [] a (inside b (baseName a))
      else
        Work.sayLine ("File ".toList ++ a ++ " is a regular file while file ".toList ++ b ++ " is a directory".toList)
        return 1
    | false, false =>
      let heading := if top then [] else
        "diff ".toList ++ options ++ a ++ [' '] ++ b ++ ['\n']
      diffFiles g heading a b

/-- Compares files and directories line by line. -/
def diff : Work Nat := do
  let names := [("brief", 'q'), ("report-identical-files", 's'), ("unified", 'U'), ("recursive", 'r'),
    ("new-file", 'N'), ("ignore-case", 'i'), ("ignore-all-space", 'w'), ("ignore-space-change", 'b'),
    ("ignore-blank-lines", 'B'), ("label", 'L'), ("text", 'a'), ("minimal", 'd')]
  let args := (← read).args
  match readOptions { letters := letters "aBbdEiL:NpqrstTU:uwZ", names := names } args with
  | .error e => misuseNamed e.message
  | .ok g =>
    match g.operands with
    | [] | [_] => misuseNamed ("missing operand after ".toList ++ quoted (args.getLast?.getD (← read).name))
    | [a, b] =>
      let options := (args.filter fun w => w.head? = some '-' && w ≠ ['-']).flatMap fun w => w ++ [' ']
      diffPaths g options ((← Work.files).entries.length + 2) true a b
    | _ :: _ :: extra :: _ => misuseNamed ("extra operand ".toList ++ quoted extra)

end Lifelines.Utility
