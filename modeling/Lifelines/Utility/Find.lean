import Lifelines.Utility.Find.Condition
import Lifelines.Utility.Listing
import Lifelines.Utility.Starting

/-!
# Walking through directories

A search visits the entries below some places, a directory before or after what is in
it, and checks a condition on each. What is in a directory comes in the order of the
names.

* `Find.check`: a condition on an entry;
* `find`: the utility.
-/

namespace Lifelines.Utility

namespace Find

/-- An entry that is visited. -/
structure Visit where
  path : Bytes
  /-- The place where the search began. -/
  place : Bytes
  depth : Nat
  kind : Act.FileKind

/-- What has come of a search so far. -/
structure Progress where
  status : Nat := 0
  /-- Whether the directory that is visited is left out. -/
  pruned : Bool := false
  /-- Whether the search has ended. -/
  stopped : Bool := false
  /-- The paths that have been gathered, the latest first. -/
  gathered : List (Nat × Bytes) := []

/-- Computations of a search. -/
abbrev Walk := StateT Progress Work

/-- The entry that a listing would show. -/
def Visit.entry (v : Visit) : Entry :=
  ⟨v.path, v.kind⟩

/-- The path of an entry from the starting place on. -/
def Visit.below (v : Visit) : Bytes :=
  let rest := v.path.drop v.place.length
  if rest.head? = some '/' && v.place.getLast? ≠ some '/' then rest.drop 1 else rest

/-- The name of an entry; a starting place keeps one of the slashes at its end. -/
def Visit.name (v : Visit) : Bytes :=
  let name := baseName v.path
  if v.path.getLast? = some '/' && name ≠ ['/'] then name ++ ['/'] else name

/-- A field of a format for an entry. -/
def Visit.field (v : Visit) (c : Conversion) : Bytes :=
  let e := v.entry
  let number (n : Nat) : Bytes := c.text (Bytes.ofNat n)
  match c.letter with
  | 'p' => c.text v.path
  | 'P' => c.text v.below
  | 'f' => c.text v.name
  | 'h' => c.text (if v.path.getLast? = some '/' then v.path.dropLast else dirName v.path)
  | 'H' => c.text v.place
  | 'd' => number v.depth
  | 's' => number e.size
  | 'k' => number e.blocks
  | 'b' => number (2 * e.blocks)
  | 'm' => c.text ((if c.has '#' then ['0'] else []) ++ Nat.toDigits 8 e.mode)
  | 'M' => c.text e.modeText
  | 'y' | 'Y' => c.text (if e.letter = '-' then ['f'] else [e.letter])
  | 'u' | 'g' => c.text "root".toList
  | 'U' | 'G' => number 0
  | 'n' => number 1
  | _ => c.text []

/-- The words of a program, the path of an entry put in. -/
def substituted (words : List Bytes) (path : Bytes) : List Bytes :=
  words.map fun w => replaceAll ['\x7b', '\x7d'] path w.length w

/-- Runs a program; answers whether it has succeeded, or cannot be started. -/
def runProgram (ps : Programs) (words : List Bytes) : Work (Option Bool) := do
  match words with
  | [] => return some true
  | name :: args =>
    match ← ps.runWith name args id with
    | .ok status => return some (status = .code 0)
    | .error e =>
      Work.complain (quoted name ++ ": ".toList ++ e.reason)
      return none

/-- Does something in the directory of an entry. -/
def inDirectoryOf {α : Type} (path : Bytes) (act : Bytes → Work α) : Work α := do
  let before := (← Work.files).here
  let _ ← enter (dirName path)
  let result ← act (inside ['.'] (baseName path))
  modifyThe World fun w => { w with files := { w.files with here := before } }
  return result

/-- Complains and remembers that something has gone wrong. -/
def blamed (text : Bytes) : Walk Unit := do
  Work.complain text
  modify fun p => { p with status := 1 }

/-- Removes an entry; the directory `.` stays. -/
def deleteEntry (v : Visit) : Walk Bool := do
  if v.path = ['.'] then return true
  let path := v.path.toText
  let result ← Act.filing (if v.kind = .directory then Filing.removeDirectory path else Filing.remove path)
  match result with
  | .ok _ => return true
  | .error e =>
    blamed ("cannot delete ".toList ++ quoted v.path ++ ": ".toList ++ e.reason)
    return false

/-- Whether a text fits a pattern, the case of letters perhaps not counting. -/
def fits (fold : Bool) (pattern text : Bytes) : Bool :=
  if fold then (Pattern.Glob.ofText (Bytes.toLower pattern)).fits (Bytes.toLower text)
  else (Pattern.Glob.ofText pattern).fits text

/-- Takes a step with an entry. -/
def take (ps : Programs) (v : Visit) : Step → Walk Bool
  | .always b => return b
  | .name fold pattern => return fits fold pattern (baseName v.path)
  | .path fold pattern => return fits fold pattern v.path
  | .regex r =>
    let subject := v.path.toArray
    return (r.matchAt? subject 0).any fun m => m.stop = subject.size
  | .kind letters =>
    return letters.contains (if v.entry.letter = '-' then 'f' else v.entry.letter)
  | .empty => do
    match v.kind with
    | .file size _ => return size = 0
    | .directory =>
      let files ← Work.files
      return ((files.locate v.path.toText).toOption.map fun l => (files.names l).isEmpty).getD false
    | .device => return false
  | .size m unit => return m.holds ((v.entry.size + unit - 1) / unit)
  | .permission s => return s.holds v.entry.mode
  | .executable => return v.entry.mode &&& 0o111 ≠ 0
  | .links m => return m.holds 1
  | .print ending => do
    Work.say (v.path ++ ending)
    return true
  | .printf pieces => do
    let isText : Piece → Bool := fun p => match p with | .stop => false | _ => true
    Work.say ((pieces.takeWhile isText).flatMap fun p =>
      match p with
      | .text t => t
      | .field c => v.field c
      | .stop => [])
    return true
  | .execute inPlace words => do
    let run (path : Bytes) : Work (Option Bool) := runProgram ps (substituted words path)
    let result ← if inPlace then inDirectoryOf v.path run else run v.path
    return result.getD false
  | .gather number _ => do
    modify fun p => { p with gathered := (number, v.path) :: p.gathered }
    return true
  | .delete => deleteEntry v
  | .prune => do
    modify fun p => { p with pruned := true }
    return true
  | .quit => do
    modify fun p => { p with stopped := true }
    return true

/-- Checks a condition on an entry, doing what it says; nothing is done after the search
    has ended. -/
def check (ps : Programs) (v : Visit) : Condition → Walk Bool
  | .step s => do
    if (← get).stopped then return false
    take ps v s
  | .not c => do return !(← check ps v c)
  | .and a b => do
    if ← check ps v a then check ps v b else return false
  | .or a b => do
    if ← check ps v a then return true else check ps v b
  | .next a b => do
    let _ ← check ps v a
    check ps v b

/-- Visits an entry and what is below it. The tree is at most `fuel` deep. -/
def visit (ps : Programs) (plan : SearchPlan) (place : Bytes) : (fuel : Nat) → (depth : Nat) → (path : Bytes) →
    Walk Unit
  | 0, _, _ => return
  | fuel + 1, depth, path => do
    if (← get).stopped then return
    match ← Act.kind path with
    | .error e => blamed (quoted path ++ ": ".toList ++ e.reason)
    | .ok kind =>
      let v : Visit := ⟨path, place, depth, kind⟩
      let here : Walk Unit := do
        modify fun p => { p with pruned := false }
        if plan.minDepth ≤ depth then
          let _ ← check ps v plan.condition
      if !plan.contentsFirst then here
      let pruned := (← get).pruned && !plan.contentsFirst
      let goesOn := plan.maxDepth.all fun n => depth < n
      if kind = .directory && !pruned && goesOn then
        let files ← Work.files
        match files.lookup path.toText, files.locate path.toText with
        | .error e, _ => blamed (quoted path ++ ": ".toList ++ e.reason)
        | _, .error _ => pure ()
        | .ok _, .ok l =>
          let names := (files.names l).mergeSort fun a b => !(b < a)
          for name in names do
            visit ps plan place fuel (depth + 1) (inside path (Bytes.ofString name))
      if plan.contentsFirst then here

/-- Runs the programs that paths have been gathered for. -/
def runGathered (ps : Programs) (plan : SearchPlan) : Walk Unit := do
  for (number, words) in plan.gathered do
    let paths := ((← get).gathered.filter fun g => g.1 = number).reverse.map (·.2)
    if !paths.isEmpty then
      if (← runProgram ps (words ++ paths)) ≠ some true then
        modify fun p => { p with status := 1 }

end Find

/-- Searches directories for entries that meet a condition. -/
def find : Starting := fun ps => do
  let words := (← read).args
  let there ← words.filterM fun w => do return (← Act.kind? w).isSome
  match Find.readPlan (Programs.searchPathOf (← read).environment) there.contains words with
  | .error lines =>
    for line in lines do Work.complain line
    return .code 1
  | .ok plan =>
    for warning in plan.warnings do Work.complain warning
    let walk : Find.Walk Unit := do
      for place in plan.places do
        let depth := (← Work.files).entries.length + 2
        Find.visit ps plan place depth 0 place
      Find.runGathered ps plan
    let ((), progress) ← walk.run {}
    return .code progress.status

end Lifelines.Utility
