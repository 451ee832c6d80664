import Lifelines.Environment
import Lifelines.Shell.Start
import Lifelines.Utility.Table

/-!
# Starting programs

A program is one of the utilities or a shell, at their usual places, or a file
that may be run, the first line of which says which program reads it. Programs
start each other.

* `Shell.programs`: what starts a program;
* `Shell.tool`: what starting a layout tool comes to.
-/

namespace Lifelines.Shell

/-- The names of the shells, with their dialects. -/
def shells : List (String × Dialect) :=
  [("sh", .plain), ("dash", .plain), ("bash", .extended)]

/-- The names of the programs at the usual places. -/
def programNames : List Bytes :=
  (shells.map (·.1) ++ Utility.table.map (·.1) ++ Utility.starters.map (·.1)).map String.toList

/-- The program that reads a file, and the argument it gets before the path: what
    the first line says after `#!`. -/
def interpreter? (contents : Bytes) : Option (Bytes × List Bytes) :=
  match contents with
  | '#' :: '!' :: rest =>
    let isGap (c : Char) : Bool := c = ' ' || c = '\t'
    let line := (rest.takeWhile (· ≠ '\n')).dropWhile isGap
    let body := (line.reverse.dropWhile isGap).reverse
    let path := body.takeWhile (!isGap ·)
    let arg := (body.drop path.length).dropWhile isGap
    if path.isEmpty then none else some (path, if arg.isEmpty then [] else [arg])
  | _ => none

/-- Runs the program with a name at a usual place. -/
def runStandard (ps : Programs) (name : Bytes) (job : Job) : Act ExitStatus := do
  let name := String.ofList name
  match shells.lookup name, Utility.table.lookup name, Utility.starters.lookup name with
  | some dialect, _, _ => program ps dialect job
  | none, some w, _ => return .code (← w.run job)
  | none, none, some w => (w ps).run job
  | none, none, none => return .code 127

/-- Starts the program with a path, the working directory being left as it is. At most
    `fuel` programs start each other. -/
def start : (fuel : Nat) → (path : Bytes) → Job → Act (Except FileError ExitStatus)
  | 0, _, _ => return .error .notProgram
  | fuel + 1, path, job => do
    let w ← get
    match Act.standardProgram? w.programs path with
    | some name =>
      let ps : Programs := ⟨fun path job w => start fuel path job w⟩
      let status ← runStandard ps name job
      modify fun after => { after with files := { after.files with here := w.files.here } }
      return .ok status
    | none =>
      if Act.isStandardDirectory path then return .error .permissionDenied
      else
        match w.files.lookup path.toText with
        | .error e => return .error e
        | .ok .directory | .ok (.file _ false) => return .error .permissionDenied
        | .ok (.file contents true) =>
          match interpreter? (Bytes.ofByteArray contents) with
          | none => return .error .notProgram
          | some (reader, args) =>
            start fuel reader { job with name := reader, args := args ++ path :: job.args }

/-- How many programs may start each other. -/
def launchLimit : Nat := 64

/-- What starts programs. -/
def programs : Programs :=
  ⟨start launchLimit⟩

/-- The variable that holds the search path. -/
def searchVariable : String := "PATH"

/-- The search path of an environment. -/
def searchPathText (env : Environment) : Bytes :=
  ((env.get? searchVariable).map Bytes.ofString).getD Programs.standardPath

/-- The directories that programs are looked up in. -/
def searchPath (env : Environment) : List String :=
  (Bytes.splitOn ':' (searchPathText env)).map Bytes.toText

/-- What a process finds in its environment. -/
def bindings (env : Environment) : List (Bytes × Bytes) :=
  env.bindings.map fun (name, value) => (Bytes.ofString name, Bytes.ofString value)

/-- What starting a program comes to. -/
def tool (env : Environment) : Tool := fun invocation => do
  let hasZero (s : String) : Bool := s.toList.contains '\x00'
  if hasZero invocation.program || invocation.args.any hasZero then return .notStarted .zeroByteGiven
  let files ← get
  let name := Bytes.ofString invocation.program
  let job : Job := {
    name := name, args := invocation.args.map Bytes.ofString, environment := bindings env
    streams := [(0, 0), (1, 1), (2, 2)] }
  let world : World := {
    files := files, channels := #[.nothing, .sink [], .sink []], programs := programNames }
  let run : Act (Except FileError ExitStatus × Bytes × Bytes) := do
    let result ← programs.launch (searchPathText env) name job
    return (result, ← Act.turnAround 1, ← Act.turnAround 2)
  let ((result, stdout, stderr), after) := run.run world
  set { after.files with here := files.here }
  match result with
  | .ok status => return .ended status (Bytes.toByteArray stdout) (Bytes.toByteArray stderr)
  | .error e => return .notStarted e

end Lifelines.Shell
