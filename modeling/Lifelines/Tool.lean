import Lifelines.Files.Tree

/-!
# External tools

A tool is started with arguments; it may look at the files and change them, and
it ends with a status and with what it has printed. What a tool does is not
known here: it is given as a function.
-/

namespace Lifelines

/-- A program and the arguments that it is started with. -/
structure Invocation where
  program : String
  args : List String
  deriving DecidableEq, Repr

/-- How a program has ended. -/
inductive ExitStatus where
  /-- By itself, with a code. -/
  | code (n : Nat)
  /-- By a signal. -/
  | signal (n : Nat)
  deriving DecidableEq, Repr

namespace ExitStatus

/-- Whether a program has done what it was asked for. -/
def success (status : ExitStatus) : Bool :=
  status = code 0

/-- The names of the signals, in the order of their numbers. -/
def signalNames : List String :=
  ["HUP", "INT", "QUIT", "ILL", "TRAP", "ABRT", "BUS", "FPE", "KILL", "USR1", "SEGV", "USR2",
    "PIPE", "ALRM", "TERM", "STKFLT", "CHLD", "CONT", "STOP", "TSTP", "TTIN", "TTOU", "URG",
    "XCPU", "XFSZ", "VTALRM", "PROF", "WINCH", "IO", "PWR", "SYS"]

/-- The name of a signal, if its number is one of a named signal. -/
def signalName? (n : Nat) : Option String :=
  if n = 0 then none else signalNames[n - 1]?

/-- How a program has ended, in words. -/
def text : ExitStatus → String
  | code n => "exit status: " ++ toString n
  | signal n =>
    match signalName? n with
    | some name => "signal: " ++ toString n ++ " (SIG" ++ name ++ ")"
    | none => "signal: " ++ toString n

end ExitStatus

/-- What comes of starting a program. -/
inductive ToolEnd where
  /-- It cannot be started. -/
  | notStarted (error : FileError)
  /-- It has ended. -/
  | ended (status : ExitStatus) (stdout stderr : ByteArray)

/-- What programs do to the files and how they end. -/
abbrev Tool := Invocation → StateM FileTree ToolEnd

end Lifelines
