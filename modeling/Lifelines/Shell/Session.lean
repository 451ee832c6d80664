import Lifelines.Process.Program
import Lifelines.Shell.Arithmetic

/-!
# A running shell

A shell has parameters, functions, options and streams, and it knows the line
that it is at and the status of the last command. A subshell starts with all of
these and leaves those of the shell as they are.

* `Session`: the state of a shell;
* `Eval`: what a shell does, which may end the shell or leave a loop or a
  function: `Jump`;
* `Eval.complain`, `Eval.fault`: what is said about an error.
-/

namespace Lifelines.Shell

/-- The value of a parameter. -/
inductive Value where
  | text (t : Bytes)
  /-- Elements with numbers, in the order of these. -/
  | list (items : List (Nat × Bytes))
  /-- Elements with names. -/
  | table (items : List (Bytes × Bytes))

/-- A parameter with a name. -/
structure Variable where
  value : Option Value := none
  exported : Bool := false
  readOnly : Bool := false
  integer : Bool := false

namespace Value

/-- The value without an index. -/
def asText : Value → Option Bytes
  | text t => some t
  | list items => items.lookup 0
  | table items => items.lookup ['0']

/-- The elements. -/
def elements : Value → List Bytes
  | text t => [t]
  | list items => items.map (·.2)
  | table items => items.map (·.2)

/-- The names of the elements. -/
def keys : Value → List Bytes
  | text _ => [['0']]
  | list items => items.map fun i => Bytes.ofNat i.1
  | table items => items.map (·.1)

/-- Puts an element into a list. -/
def putItem (n : Nat) (t : Bytes) : List (Nat × Bytes) → List (Nat × Bytes)
  | [] => [(n, t)]
  | (m, u) :: rest =>
    if n < m then (n, t) :: (m, u) :: rest
    else if n = m then (n, t) :: rest
    else (m, u) :: putItem n t rest

/-- Puts an element into a table. -/
def putEntry (k t : Bytes) : List (Bytes × Bytes) → List (Bytes × Bytes)
  | [] => [(k, t)]
  | (l, u) :: rest => if k = l then (k, t) :: rest else (l, u) :: putEntry k t rest

end Value

/-- A command that runs in the background. -/
structure Background where
  process : Nat
  command : Command
  vars : List (Bytes × Variable)
  arguments : List Bytes
  streams : Act.Streams

/-- The state of a shell. -/
structure Session where
  dialect : Dialect := .plain
  name : Bytes
  /-- What the extended shell says before a fault of a script. -/
  label : Bytes := []
  arguments : List Bytes := []
  vars : List (Bytes × Variable) := []
  /-- For each function that is being run, the parameters that it hides. -/
  scopes : List (List (Bytes × Option Variable)) := []
  functions : List (Bytes × Command) := []
  texts : List HereText := []
  nextText : Nat := 0
  aliases : List (Bytes × Bytes) := []
  /-- The letters of the options that are on. -/
  options : List Char := []
  /-- The options of the extended shell that are on. -/
  settings : List Bytes := []
  /-- What is done at a signal, and at the end. -/
  traps : List (Bytes × Bytes) := []
  /-- The signals that have come. -/
  signals : List Bytes := []
  status : Nat := 0
  /-- The status of the last command whose output has been inserted. -/
  inserted : Option Nat := none
  streams : Act.Streams := []
  process : Nat := 0
  /-- The last command in the background. -/
  lastBackground : Option Nat := none
  backgrounds : List Background := []
  /-- How commands in the background have ended. -/
  ended : List (Nat × ExitStatus) := []
  line : Nat := 1
  /-- The command that is said before a complaint. -/
  command : Option Bytes := none
  /-- Whether the status of a command is looked at. -/
  guarded : Bool := false
  loops : Nat := 0
  /-- How many files of commands are being read in. -/
  files : Nat := 0
  /-- Whether this is a subshell. -/
  isSub : Bool := false
  /-- How many letters of a word have been looked at for options. -/
  letters : Nat := 0
  /-- Whether nothing is left to do after the command that is run. -/
  isTail : Bool := false

/-- What ends more than a command. -/
inductive Jump where
  /-- The shell ends. -/
  | leave (status : Nat)
  /-- The shell ends because of an error, unless the command that finds it is one that
      may fail. -/
  | failed (status : Nat)
  | killed (signal : Nat)
  | leaveLoops (n : Nat)
  | nextRound (n : Nat)
  | leaveFunction (status : Nat)

/-- What a shell does. -/
abbrev Eval := ExceptT Jump (StateT Session Act)

/-- What a shell needs to run other things. -/
structure Runner where
  /-- Runs a command. -/
  run : Command → Eval Unit
  /-- Runs a script. -/
  script : Bytes → Eval Unit
  /-- The programs that there are. -/
  programs : Programs

namespace Session

/-- Whether an option is on. -/
def has (s : Session) (option : Char) : Bool :=
  s.options.contains option

/-- Whether the shell is the extended one. -/
def isExtended (s : Session) : Bool :=
  s.dialect = .extended

/-- A parameter with a name. -/
def parameter? (s : Session) (name : Bytes) : Option Variable :=
  s.vars.lookup name

/-- The value of a parameter with a name. -/
def text? (s : Session) (name : Bytes) : Option Bytes :=
  ((s.parameter? name).bind (·.value)).bind Value.asText

/-- Replaces a parameter. -/
def put (s : Session) (name : Bytes) (v : Option Variable) : Session :=
  let others := s.vars.filter fun p => p.1 ≠ name
  { s with vars := (v.map (name, ·)).toList ++ others }

/-- What stands before a complaint. -/
def heading (s : Session) : Bytes :=
  let place := match s.dialect with
    | .plain => ": ".toList ++ Bytes.ofNat s.line ++ ": ".toList
    | .extended => ": line ".toList ++ Bytes.ofNat s.line ++ ": ".toList
  s.name ++ place ++ (s.command.map (· ++ ": ".toList)).getD []

/-- The environment of the programs that the shell starts. -/
def environment (s : Session) : List (Bytes × Bytes) :=
  s.vars.filterMap fun (name, v) =>
    if v.exported then (v.value.bind Value.asText).map fun t => (name, t) else none

/-- The characters that separate fields. -/
def separators (s : Session) : Bytes :=
  match s.parameter? "IFS".toList with
  | some v => (v.value.bind Value.asText).getD " \t\n".toList
  | none => " \t\n".toList

/-- The search path. -/
def searchPath (s : Session) : Bytes :=
  (s.text? "PATH".toList).getD (if s.isExtended then [] else "/dev/null".toList)

end Session

namespace Eval

/-- Does something that changes the world. -/
def act {α : Type} (a : Act α) : Eval α :=
  liftM (m := Act) a

/-- Writes to a stream. -/
def put (stream : Nat) (text : Bytes) : Eval Unit := do
  match (← get).streams.lookup stream with
  | some id => let _ ← act (Act.write id text)
  | none => return

/-- Writes a line to the second output. -/
def note (text : Bytes) : Eval Unit :=
  put 2 (text ++ ['\n'])

/-- Complains. -/
def complain (text : Bytes) : Eval Unit := do
  note ((← get).heading ++ text)

/-- Complains and gives up. -/
def fault {α : Type} (text : Bytes) : Eval α := do
  complain text
  throw (.failed (if (← get).isExtended then 1 else 2))

/-- Complains and gives a status. -/
def fail (status : Nat) (text : Bytes) : Eval Nat := do
  complain text
  return status

/-- Sets the status of the last command. -/
def setStatus (n : Nat) : Eval Unit :=
  modify fun s => { s with status := n }

/-- What is done at a signal. -/
inductive Response where
  | ends
  | nothing
  | action (name : Bytes)

/-- The signals that do not end a process. -/
def harmless : List String :=
  ["CHLD", "CONT", "URG", "WINCH", "STOP", "TSTP", "TTIN", "TTOU"]

/-- What the shell does at a signal. -/
def response (s : Session) (signal : Nat) : Response :=
  let name := (ExitStatus.signalName? signal).getD ""
  if name = "KILL" then .ends
  else
    match s.traps.lookup name.toList with
    | some [] => .nothing
    | some _ => .action name.toList
    | none => if signal = 0 || harmless.contains name then .nothing else .ends

/-- Notices the signals that have been sent to the shell. -/
def notice : Eval Unit := do
  let s ← get
  if !s.isSub then
    for signal in ← act (Act.receive s.process) do
      match response s signal with
      | .ends => throw (.killed signal)
      | .nothing => pure ()
      | .action name => modify fun s => { s with signals := s.signals ++ [name] }

/-- Ends the shell if the processes that run are stopped. -/
def checkStopped : Eval Unit := do
  if ← act Act.isStopped then throw (.killed 15)

/-- How a signal that ends a command is called. -/
def signalText (signal : Nat) : Bytes :=
  (match ExitStatus.signalName? signal with
  | some "HUP" => "Hangup"
  | some "QUIT" => "Quit"
  | some "ILL" => "Illegal instruction"
  | some "TRAP" => "Trace/breakpoint trap"
  | some "ABRT" => "Aborted"
  | some "BUS" => "Bus error"
  | some "FPE" => "Floating point exception"
  | some "KILL" => "Killed"
  | some "USR1" => "User defined signal 1"
  | some "SEGV" => "Segmentation fault"
  | some "USR2" => "User defined signal 2"
  | some "ALRM" => "Alarm clock"
  | some "TERM" => "Terminated"
  | _ => "Unknown signal").toList

/-- Sets the status that a command which has ended leaves; says which signal has ended
    it. -/
def took (status : ExitStatus) : Eval Unit := do
  match status with
  | .code n => setStatus n
  | .signal n =>
    setStatus (128 + n)
    if !(← get).isExtended && n ≠ 2 && n ≠ 13 then note (signalText n)

/-- The result of something that may end more than a command. -/
def attempt {α : Type} (a : Eval α) : Eval (Except Jump α) :=
  tryCatch (Except.ok <$> a) fun j => return .error j

/-- Does something and then something else, however it ends. -/
def afterwards {α : Type} (a : Eval α) (cleanUp : Eval Unit) : Eval α := do
  let result ← attempt a
  cleanUp
  match result with
  | .ok x => return x
  | .error j => throw j

/-- Runs a utility as a part of the shell. -/
def work {α : Type} (name : Bytes) (args : List Bytes) (w : Work α) : Eval α := do
  let s ← get
  act (w.run ⟨name, args, s.environment, s.streams⟩)

/-! ### Parameters -/

/-- Sets a parameter, which must not be read-only. -/
def assign (name : Bytes) (value : Value) : Eval Unit := do
  let s ← get
  let v := (s.parameter? name).getD {}
  if v.readOnly then
    fault (name ++ (if s.isExtended then ": readonly variable" else ": is read only").toList)
  else
    let v := { v with value := some value, exported := v.exported || s.has 'a' }
    set (s.put name (some v))
    if name = "OPTIND".toList then modify fun s => { s with letters := 0 }

/-- Sets a parameter to a text. -/
def assignText (name text : Bytes) : Eval Unit := do
  match ((← get).parameter? name).bind (·.value) with
  | some (.list items) => assign name (.list (Value.putItem 0 text items))
  | some (.table items) => assign name (.table (Value.putEntry ['0'] text items))
  | _ => assign name (.text text)

/-- Makes a parameter one that the programs get, too. -/
def exportName (name : Bytes) : Eval Unit :=
  modify fun s =>
    let v := (s.parameter? name).getD {}
    s.put name (some { v with exported := true })

/-- Hides a parameter until the function that is being run ends. -/
def hide (name : Bytes) : Eval Unit :=
  modify fun s =>
    match s.scopes with
    | [] => s
    | scope :: rest =>
      if scope.any fun p => p.1 = name then s
      else { s with scopes := ((name, s.parameter? name) :: scope) :: rest }

/-- Takes back what a function has hidden. -/
def restoreScope : Eval Unit :=
  modify fun s =>
    match s.scopes with
    | [] => s
    | scope :: rest =>
      let s := scope.foldl (fun s (name, v) => s.put name v) s
      { s with scopes := rest }

/-! ### Ends -/

/-- The status that a jump leaves. -/
def statusAfter (result : Except Jump Unit) : Eval (Except Nat Nat) := do
  match result with
  | .error (.killed signal) => return .error signal
  | .error (.leave n) | .error (.failed n) | .error (.leaveFunction n) => return .ok n
  | _ => return .ok (← get).status

/-- Runs the commands that are in the background, in their order, each with the
    parameters that it has been started with. -/
def runBackground (r : Runner) : Eval Unit := do
  let jobs := (← get).backgrounds
  modify fun s => { s with backgrounds := [] }
  for job in jobs do
    let s ← get
    let here := (← act get).files.here
    set { s with
      vars := job.vars, arguments := job.arguments, streams := job.streams, isSub := true
      traps := [], guarded := false, loops := 0, options := s.options.filter (· ≠ 'm') }
    let result ← attempt (r.run job.command)
    let ended ← statusAfter result
    set s
    act (modify fun w => { w with files := { w.files with here := here } })
    let status : ExitStatus := match ended with
      | .ok n => .code (n % 256)
      | .error signal => .signal signal
    modify fun s => { s with ended := (job.process, status) :: s.ended }

/-- Runs something as all that a shell does: what is to be done at the end is done,
    and what is in the background is waited for. -/
def conclude (r : Runner) (body : Eval Unit) : Eval ExitStatus := do
  match ← statusAfter (← attempt body) with
  | .error signal => return .signal signal
  | .ok n =>
    setStatus n
    let final : Except Nat Nat ←
      match (← get).traps.lookup "EXIT".toList with
      | some action =>
        modify fun s => { s with traps := s.traps.filter fun t => t.1 ≠ "EXIT".toList }
        match ← attempt (r.script action) with
        | .error (.leave m) | .error (.failed m) => pure (.ok m)
        | .error (.killed signal) => pure (.error signal)
        | _ => pure (.ok n)
      | none => pure (.ok n)
    runBackground r
    match final with
    | .ok n => return .code (n % 256)
    | .error signal => return .signal signal

/-- Runs something in a subshell with some streams; answers how it has ended. -/
def inSubshell (r : Runner) (streams : Act.Streams) (body : Eval Unit) : Eval ExitStatus := do
  let s ← get
  let here := (← act get).files.here
  set { s with
    streams := streams, isSub := true, loops := 0, backgrounds := [], isTail := false
    traps := s.traps.filter fun t => t.2.isEmpty }
  let ended ← conclude r body
  set { s with texts := s.texts }
  act (modify fun w => { w with files := { w.files with here := here } })
  return ended

/-- What something prints when it is run in a subshell. -/
def capture (r : Runner) (body : Eval Unit) : Eval Bytes := do
  let id ← act (Act.addChannel (.sink []))
  let streams := (1, id) :: (← get).streams.filter fun p => p.1 ≠ 1
  let ended ← inSubshell r streams body
  checkStopped
  setStatus ended.asCode
  notice
  act (Act.turnAround id)

end Eval

end Lifelines.Shell
