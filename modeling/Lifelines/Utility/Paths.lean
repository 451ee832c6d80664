import Lifelines.Utility.Options

/-!
# Paths and their parts

Utilities that take paths apart or find out where they lead.

* `baseName`, `dirName`: the last component of a path and what is before it;
* `basename`, `dirname`, `realpath`, `readlink`, `mktemp`.
-/

namespace Lifelines.Utility

/-- A path without the slashes at its end; a path of slashes is one slash. -/
def stripSlashes (path : Bytes) : Bytes :=
  match path.reverse.dropWhile (· = '/') with
  | [] => path.take 1
  | cs => cs.reverse

/-- The last component of a path. -/
def baseName (path : Bytes) : Bytes :=
  let path := stripSlashes path
  if path = ['/'] then path else (path.reverse.takeWhile (· ≠ '/')).reverse

/-- What is before the last component of a path. -/
def dirName (path : Bytes) : Bytes :=
  let path := stripSlashes path
  if path = ['/'] then path
  else
    match path.reverse.dropWhile (· ≠ '/') with
    | [] => ['.']
    | cs => stripSlashes cs.reverse

/-- A path below a directory. -/
def inside (directory name : Bytes) : Bytes :=
  if directory.getLast? = some '/' then directory ++ name else directory ++ '/' :: name

/-- A name without an ending, unless it consists of it. -/
def dropEnding (ending name : Bytes) : Bytes :=
  if ending ≠ name && ending.isSuffixOf name then name.take (name.length - ending.length) else name

/-- A path and all that is below it, each with what it is. -/
def allBelow (path : Bytes) : Work (List (Bytes × Act.FileKind)) := do
  match ← Act.kind path with
  | .error _ => return []
  | .ok kind =>
    let files ← Work.files
    match files.locate path.toText with
    | .error _ => return [(path, kind)]
    | .ok l =>
      let below := (files.below l).mergeSort fun a b => !(b.1 < a.1)
      return (path, kind) :: below.map fun (names, node) =>
        (inside path (Bytes.join ['/'] (names.map Bytes.ofString)),
          match node with
          | .directory => .directory
          | .file contents executable => .file contents.size executable)

/-- Prints the last component of each path. -/
def basename : Work Nat :=
  let names := [("multiple", 'a'), ("suffix", 's'), ("zero", 'z')]
  withOptions { letters := letters "as:z", names := names, ordered := true } fun g => do
    let newline := if g.has 'z' then '\x00' else '\n'
    let print (ending path : Bytes) : Work Unit :=
      Work.say (dropEnding ending (baseName path) ++ [newline])
    if g.has 'a' || g.has 's' then
      if g.operands.isEmpty then missingOperand []
      else
        for path in g.operands do
          print ((g.value? 's').getD []) path
        return 0
    else
      match g.operands with
      | [] => missingOperand []
      | [path] =>
        print [] path
        return 0
      | [path, ending] =>
        print ending path
        return 0
      | _ :: _ :: extra :: _ => extraOperand extra

/-- Prints what is before the last component of each path. -/
def dirname : Work Nat :=
  withOptions { letters := letters "z", names := [("zero", 'z')] } fun g => do
    if g.operands.isEmpty then return ← missingOperand []
    for path in g.operands do
      Work.say (dirName path ++ [if g.has 'z' then '\x00' else '\n'])
    return 0

/-- Where a path leads, all but the last component of which has to be there, and with
    `whole` this one, too. -/
def realPath (whole : Bool) (path : Bytes) : Work (Except FileError Bytes) := do
  if (← Act.kind? path).isSome then
    if Act.isStandardDirectory path || (Act.device? path).isSome ||
        (Act.standardProgram? (← getThe World).programs path).isSome then
      return .ok (Act.shortest path)
  match (← Work.files).locate path.toText with
  | .error e => return .error e
  | .ok l =>
    if whole && ((← Work.files).node? l).isNone then return .error .notFound
    return .ok (Act.pathOf l)

/-- Prints where each path leads. -/
def realpath : Work Nat :=
  let names := [("canonicalize-existing", 'e'), ("canonicalize-missing", 'm'), ("quiet", 'q'),
    ("strip", 's'), ("no-symlinks", 's'), ("logical", 'L'), ("physical", 'P'), ("zero", 'z')]
  withOptions { letters := letters "eLmPqsz", names := names } fun g => do
    if g.operands.isEmpty then return ← missingOperand []
    let mut status := 0
    for path in g.operands do
      match ← realPath (g.has 'e') path with
      | .ok result => Work.say (result ++ [if g.has 'z' then '\x00' else '\n'])
      | .error e =>
        if g.has 'm' then
          let here := Act.pathOf (← Work.files).here
          Work.sayLine (Act.shortest ((if path.head? = some '/' then [] else here) ++ '/' :: path))
        else
          if !g.has 'q' then Work.complain (path ++ ": ".toList ++ e.reason)
          status := 1
    return status

/-- Prints where each path leads; without an option there are no links to be read. -/
def readlink : Work Nat :=
  let names := [("canonicalize", 'f'), ("canonicalize-existing", 'e'), ("canonicalize-missing", 'm'),
    ("no-newline", 'n'), ("quiet", 'q'), ("silent", 's'), ("verbose", 'v'), ("zero", 'z')]
  withOptions { letters := letters "femnqsvz", names := names } fun g => do
    if g.operands.isEmpty then return ← missingOperand []
    let mut status := 0
    for path in g.operands do
      let result ←
        if g.has 'f' || g.has 'e' || g.has 'm' then realPath (g.has 'e') path
        else pure (.error .zeroByte)
      match result with
      | .ok result => Work.say (result ++ (if g.has 'n' then [] else [if g.has 'z' then '\x00' else '\n']))
      | .error e =>
        if g.has 'v' then Work.complain (path ++ ": ".toList ++ e.reason)
        status := 1
    return status

/-- Prints the working directory. -/
def pwd : Work Nat :=
  withOptions { letters := letters "LP", names := [("logical", 'L'), ("physical", 'P')] } fun _ => do
    Work.sayLine (Act.pathOf (← Work.files).here)
    return 0

/-! ### Scratch files -/

/-- The letters that stand for the number `n`, at least `width` of them. -/
def numberLetters (width n : Nat) : Bytes :=
  (Nat.toDigits 16 n).map (fun c => if c.isDigit then Char.ofNat (c.toNat - 48 + 103) else c) |>
    Bytes.padLeft width 'x'

/-- The first path of a pattern, a row of `X` in which stands for anything, that leads
    nowhere. -/
def freePath (start : Bytes) (width : Nat) (ending : Bytes) : Work Bytes := do
  let files ← Work.files
  let path (n : Nat) : Bytes := start ++ numberLetters width n ++ ending
  let numbers := List.range (files.entries.length + 1)
  return path ((numbers.find? fun n => !files.leads (path n).toText).getD 0)

/-- Makes a scratch file or a scratch directory and prints its path. -/
def mktemp : Work Nat :=
  let names := [("directory", 'd'), ("dry-run", 'u'), ("quiet", 'q'), ("tmpdir", 'p')]
  withOptions { letters := letters "dp:qtuV", names := names } fun g => do
    match g.operands with
    | _ :: _ :: _ => misuse 1 "too many templates".toList
    | operands =>
      let template := operands.headD "tmp.XXXXXXXXXX".toList
      let ending := (template.reverse.takeWhile (· ≠ 'X')).reverse
      let body := template.take (template.length - ending.length)
      let width := (body.reverse.takeWhile (· = 'X')).length
      if width < 3 then Work.fail 1 ("too few X's in template ".toList ++ quoted template)
      else
        let directory? : Option Bytes :=
          match g.value? 'p' with
          | some d => some d
          | none => if operands.isEmpty || g.has 't' then some "/tmp".toList else none
        let directory? ← do
          match ← Work.setting? "TMPDIR" with
          | some d => pure (if directory?.isSome && (g.value? 'p').isNone && !d.isEmpty then some d else directory?)
          | none => pure directory?
        let start := body.take (body.length - width)
        let start := (directory?.map fun d => inside d start).getD start
        let path ← freePath start width ending
        let result ←
          if g.has 'u' then pure (.ok ())
          else if g.has 'd' then Act.filing (Filing.makeDirectory path.toText)
          else Work.store path []
        match result with
        | .ok _ =>
          Work.sayLine path
          return 0
        | .error e =>
          if !g.has 'q' then
            Work.complain ("failed to create ".toList ++
              (if g.has 'd' then "directory" else "file").toList ++ " via template ".toList ++
              quoted ((directory?.map fun d => inside d template).getD template) ++ ": ".toList ++ e.reason)
          return 1

end Lifelines.Utility
