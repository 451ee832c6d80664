import Lifelines.Process.World

/-!
# Jobs

A job is a program that is started with arguments, an environment and streams,
and that ends with a status. Programs work in `Work`: they know their job and
change the world.

* `Job`: a program that is started;
* `Work`: what a program does, and `Work.say`, `Work.complain`, `Work.input`.
-/

namespace Lifelines

/-- A program that is started. -/
structure Job where
  /-- The name that the program goes by. -/
  name : Bytes
  args : List Bytes := []
  environment : List (Bytes × Bytes) := []
  streams : Act.Streams := []

/-- What a program does: it knows its job. -/
abbrev Work := ReaderT Job Act

namespace Work

/-- Writes to a stream; what is written to a stream that is not there is lost. -/
def put (stream : Nat) (text : Bytes) : Work Unit := do
  match (← read).streams.lookup stream with
  | some id => let _ ← Act.write id text
  | none => return

/-- Writes to the first output. -/
def say (text : Bytes) : Work Unit :=
  put 1 text

/-- Writes a line to the first output. -/
def sayLine (text : Bytes) : Work Unit :=
  put 1 (text ++ ['\n'])

/-- Writes a line to the second output. -/
def note (text : Bytes) : Work Unit :=
  put 2 (text ++ ['\n'])

/-- Writes a line to the second output, the name of the program before it. -/
def complain (text : Bytes) : Work Unit := do
  note ((← read).name ++ ": ".toList ++ text)

/-- Complains and gives a status. -/
def fail (status : Nat) (text : Bytes) : Work Nat := do
  complain text
  return status

/-- Reads all of the input. -/
def input : Work Bytes := do
  match (← read).streams.lookup 0 with
  | some id => Act.readAll id
  | none => return []

/-- The contents of a file; a dash is the input. -/
def contents (path : Bytes) : Work (Except FileError Bytes) := do
  if path = ['-'] then
    match (← read).streams.lookup 0 with
    | some id =>
      if ← Act.isDirectoryChannel id then return .error .isDirectory
      return .ok (← Act.readAll id)
    | none => return .ok []
  Act.readFile (← read).streams path

/-- Writes a file anew. -/
def store (path text : Bytes) : Work (Except FileError Unit) := do
  match ← Act.openForWriting (← read).streams path false with
  | .error e => return .error e
  | .ok id =>
    let _ ← Act.write id text
    return .ok ()

/-- The files of the world. -/
def files : Work FileTree := do
  return (← getThe World).files

/-- A variable of the environment. -/
def setting? (name : String) : Work (Option Bytes) := do
  return (← read).environment.lookup name.toList

end Work

namespace FileError

/-- What is wrong with a file, in the words of the system. -/
def reason : FileError → Bytes
  | .notFound => "No such file or directory".toList
  | .permissionDenied => "Permission denied".toList
  | .alreadyExists => "File exists".toList
  | .notDirectory => "Not a directory".toList
  | .isDirectory => "Is a directory".toList
  | .nameTooLong => "File name too long".toList
  | .notEmpty => "Directory not empty".toList
  | .notProgram => "Exec format error".toList
  | .zeroByte | .zeroByteGiven => "Invalid argument".toList
  | .notText => "Invalid or incomplete multibyte or wide character".toList

end FileError

/-- How a program has ended, as one number. -/
def ExitStatus.asCode : ExitStatus → Nat
  | .code n => n
  | .signal n => 128 + n

end Lifelines
