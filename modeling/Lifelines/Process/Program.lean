import Lifelines.Process.Job

/-!
# Programs and their places

A program is named by a path, or by a name that is looked up in the directories
of a search path. A program that is missing there, or whose interpreter is
missing, or that may not be run, is passed over.

* `Programs`: what starts programs;
* `Programs.launch`: starts the program with a name;
* `Programs.find?`: the path of the program with a name.
-/

namespace Lifelines

/-- What starts programs. -/
structure Programs where
  /-- Starts the program with a path. -/
  start : Bytes → Job → Act (Except FileError ExitStatus)

namespace Programs

/-- The places that are searched if no others are given. -/
def standardPath : Bytes :=
  "/bin:/usr/bin".toList

/-- A name seen from a directory; the directory without a name is the working
    directory. -/
def pathIn (dir name : Bytes) : Bytes :=
  if dir.isEmpty then name
  else if dir.getLast? = some '/' then dir ++ name
  else dir ++ ['/'] ++ name

/-- Whether a path leads to a program. -/
def isProgram (path : Bytes) : Act Bool := do
  match ← Act.kind? path with
  | some (.file _ executable) => return executable
  | _ => return false

/-- The path of the program with a name. -/
def find? (searchPath name : Bytes) : Act (Option Bytes) := do
  if name.contains '/' then return if ← isProgram name then some name else none
  else
    ((Bytes.splitOn ':' searchPath).map fun dir => pathIn dir name).findM? isProgram

/-- Starts the first of some programs that can be started. What went wrong is that a
    program may not be run, if there was such a one. -/
def launchFirst (ps : Programs) (job : Job) (denied : Bool) :
    List Bytes → Act (Except FileError ExitStatus)
  | [] => return .error (if denied then .permissionDenied else .notFound)
  | path :: rest => do
    match ← ps.start path job with
    | .error .notFound | .error .notDirectory => ps.launchFirst job denied rest
    | .error .permissionDenied => ps.launchFirst job true rest
    | result => return result

/-- Starts the program with a name. -/
def launch (ps : Programs) (searchPath name : Bytes) (job : Job) :
    Act (Except FileError ExitStatus) :=
  if name.contains '/' then ps.start name job
  else if name.isEmpty then return .error .notFound
  else if FileTree.componentLimit < name.length then return .error .nameTooLong
  else
    ps.launchFirst job false ((Bytes.splitOn ':' searchPath).map fun dir => pathIn dir name)

/-- The program that reads scripts that do not say what reads them. -/
def scriptReader : Bytes :=
  "/bin/sh".toList

/-- Starts the program with a name; a file that is no program is taken for a script. -/
def execute (ps : Programs) (searchPath name : Bytes) (job : Job) :
    Act (Except FileError ExitStatus) := do
  match ← ps.launch searchPath name job with
  | .error .notProgram =>
    let path := (← find? searchPath name).getD name
    ps.start scriptReader { job with name := scriptReader, args := path :: job.args }
  | result => return result

/-- The search path of an environment. -/
def searchPathOf (environment : List (Bytes × Bytes)) : Bytes :=
  (environment.lookup "PATH".toList).getD standardPath

/-- Starts a program with the environment and the streams of the one at work. -/
def runWith (ps : Programs) (name : Bytes) (args : List Bytes) (change : Job → Job) :
    Work (Except FileError ExitStatus) := do
  let job ← read
  ps.execute (searchPathOf job.environment) name (change { job with name := name, args := args })

end Programs

end Lifelines
