import Lifelines.Awk.Separator
import Lifelines.Awk.Syntax
import Lifelines.Awk.Value
import Lifelines.Process.Program

/-!
# The state of a program at work

A program works on the record and its fields, on variables and tables, and on texts
that are read and written. What it prints is gathered and let out when another
program is started and at the end.

* `Table`: tables, and the order in which they are gone through;
* `Machine`, `Run`: the state, and computations on it;
* `Run.readMain`, `Run.setRecord`, `Run.setField`: records and fields;
* `Run.write`, `Run.close`: output.
-/

namespace Lifelines.Awk

/-! ### Tables -/

/-- A table: texts with values. -/
structure Table where
  /-- The entries, the latest first. -/
  entries : List (Bytes × Value) := []
  deriving Inhabited

namespace Table

/-- The value of a text. -/
def get? (t : Table) (key : Bytes) : Option Value :=
  t.entries.lookup key

/-- Sets the value of a text. -/
def set (t : Table) (key : Bytes) (v : Value) : Table :=
  if (t.get? key).isSome then ⟨t.entries.map fun e => if e.1 = key then (key, v) else e⟩
  else ⟨(key, v) :: t.entries⟩

/-- Removes a text. -/
def erase (t : Table) (key : Bytes) : Table :=
  ⟨t.entries.filter fun e => e.1 ≠ key⟩

/-- A number of 32 bits for a text, each byte of which changes it. -/
def digest (key : Bytes) : Nat :=
  key.foldl (fun h c => (h ^^^ c.toNat) * 16777619 % Nat.pow 2 32) 2166136261

/-- How many lists the entries of a table are spread over. -/
def width (size : Nat) : Nat :=
  go 32 64
where
  /-- Doubles the number while the lists are too long. -/
  go : (fuel : Nat) → Nat → Nat
    | 0, n => n
    | fuel + 1, n => if 12 * n < size then go fuel (2 * n) else n

/-- The texts in the order in which they are gone through: by list, and the latest first in
    each. -/
def keys (t : Table) : List Bytes :=
  let n := width t.entries.length
  let marked := t.entries.map fun e => (digest e.1 % n, e.1)
  (marked.mergeSort fun a b => a.1 ≤ b.1).map (·.2)

end Table

/-! ### The state -/

/-- What a parameter of a function at work stands for. -/
inductive Cell where
  | value (v : Value)
  | table (id : Nat)
  deriving Inhabited

/-- A text that is read. -/
structure Source where
  name : Bytes
  isCommand : Bool
  rest : Bytes
  /-- The status of the command that has written it. -/
  status : Int := 0

/-- Where something is written. -/
inductive Drain where
  | channel (id : Nat)
  /-- The texts for a command, the latest first. -/
  | command (pieces : List Bytes)

/-- The state of a program. -/
structure Machine where
  program : Program
  vars : List (Bytes × Value) := []
  /-- The tables that names stand for. -/
  named : List (Bytes × Nat) := []
  tables : Array Table := #[]
  /-- The parameters of the function at work. -/
  frame : Array Cell := #[]
  record : Value := .input []
  fields : Array Value := #[]
  /-- What is left of the file that is read, once there is one. -/
  main : Option Bytes := none
  /-- The number of the next argument, and whether a file has been among them. -/
  argument : Nat := 1
  hasRead : Bool := false
  sources : List Source := []
  drains : List (Bytes × Drain) := []
  /-- What is printed and not let out yet, the latest first. -/
  waiting : List Bytes := []
  /-- The ranges that are open. -/
  ranges : List Nat := []
  code : Nat := 0
  seed : Nat := 1

/-- Why a computation does not go on. -/
inductive Leave where
  | nextRecord
  | nextFile
  | exit
  | giveBack (v : Value)
  | leaveLoop
  | nextRound
  /-- Something is wrong. -/
  | fault (text : Bytes)

/-- Computations of a program. -/
abbrev Run := ExceptT Leave (StateT Machine Work)

namespace Run

/-- The state. -/
def machine : Run Machine :=
  fun m => return (.ok m, m)

/-- Changes the state. -/
def change (f : Machine → Machine) : Run Unit :=
  fun m => return (.ok (), f m)

/-- Work on the world. -/
def work {α : Type} (w : Work α) : Run α :=
  fun m => do
    let a ← w
    return (.ok a, m)

/-- Gives up. -/
def fault {α : Type} (text : Bytes) : Run α :=
  throw (.fault text)

/-! ### Variables -/

/-- The value of a variable. -/
def get (name : String) : Run Value := do
  return ((← machine).vars.lookup name.toList).getD .unset

/-- Sets a variable and nothing else. -/
def put (name : Bytes) (v : Value) : Run Unit :=
  change fun m =>
    if (m.vars.lookup name).isSome then
      { m with vars := m.vars.map fun e => if e.1 = name then (name, v) else e }
    else { m with vars := (name, v) :: m.vars }

/-- The format for numbers that become texts. -/
def numberFormat : Run Bytes := do
  return (← get "CONVFMT").toText "%.6g".toList

/-- A value as a text. -/
def textOf (v : Value) : Run Bytes := do
  match v with
  | .text t | .input t => return t
  | .unset => return []
  | v => return v.toText (← numberFormat)

/-- A variable as a text. -/
def textIn (name : String) : Run Bytes := do
  textOf (← get name)

/-- Fails as the program runs. -/
def runFault {α : Type} (text : Bytes) : Run α := do
  let count (name : String) : Run Bytes := do return Bytes.ofInt (toInteger (← get name).toNumber)
  fault ("run time error: ".toList ++ text ++ "\n\tFILENAME=\"".toList ++ (← textIn "FILENAME") ++
    "\" FNR=".toList ++ (← count "FNR") ++ " NR=".toList ++ (← count "NR"))

/-- The expression that a text stands for. -/
def pattern (text : Bytes) : Run Pattern.Regex := do
  match readPattern text with
  | .ok r => return r
  | .error complaint => runFault complaint

/-- The separator in a variable. -/
def separator (name : String) : Run Separator := do
  match Separator.ofText (← textIn name) with
  | .ok s => return s
  | .error complaint => runFault complaint

/-! ### Fields -/

/-- Splits the record into fields. -/
def splitRecord (text : Bytes) : Run Unit := do
  let s ← separator "FS"
  let s := if (← textIn "RS").isEmpty then s.withNewlines else s
  let fields := ((s.split text).map Value.input).toArray
  change fun m => { m with fields := fields }
  put "NF".toList (.number (Float.ofNat fields.size))

/-- Sets the record. -/
def setRecord (v : Value) : Run Unit := do
  let text ← textOf v
  change fun m => { m with record := match v with | .number _ => .input text | v => v }
  splitRecord text

/-- Puts the record together from its fields. -/
def joinFields : Run Unit := do
  let texts ← (← machine).fields.toList.mapM textOf
  let text := Bytes.join (← textIn "OFS") texts
  change fun m => { m with record := .input text }

/-- Makes the record have so many fields. -/
def resize (count : Nat) : Run Unit := do
  change fun m =>
    let fields := m.fields.extract 0 count
    { m with fields := fields ++ (List.replicate (count - fields.size) (Value.input [])).toArray }
  put "NF".toList (.number (Float.ofNat count))

/-- The number of a field. -/
def fieldNumber (v : Value) : Run Nat := do
  let n := toInteger v.toNumber
  if n < 0 then runFault ("negative field index $".toList ++ Bytes.ofInt n)
  else return n.toNat

/-- A field; at zero it is the record. -/
def field (n : Nat) : Run Value := do
  let m ← machine
  if n = 0 then return m.record else return (m.fields[n - 1]?).getD .unset

/-- Sets a field; at zero it is the record. -/
def setField (n : Nat) (v : Value) : Run Unit := do
  if n = 0 then setRecord v
  else
    if (← machine).fields.size < n then resize n
    change fun m => { m with fields := m.fields.setIfInBounds (n - 1) v }
    joinFields

/-- Sets a variable; the number of fields is more than a variable. -/
def set (name : Bytes) (v : Value) : Run Unit := do
  if name = "NF".toList then
    let n := toInteger v.toNumber
    if n < 0 then runFault "negative value assigned to NF".toList
    resize n.toNat
    joinFields
  else put name v

/-- Adds to a variable. -/
def count (name : String) : Run Unit := do
  put name.toList (.number ((← get name).toNumber + 1))

/-! ### Tables -/

/-- A new table. -/
def newTable : Run Nat := do
  let m ← machine
  change fun m => { m with tables := m.tables.push {} }
  return m.tables.size

/-- The table that a name stands for. -/
def tableOf (n : Name) : Run Nat := do
  match n with
  | .global name =>
    match (← machine).named.lookup name with
    | some id => return id
    | none =>
      let id ← newTable
      change fun m => { m with named := (name, id) :: m.named }
      return id
  | .own i =>
    match (← machine).frame[i]? with
    | some (.table id) => return id
    | _ =>
      let id ← newTable
      change fun m => { m with frame := m.frame.setIfInBounds i (.table id) }
      return id

/-- A table. -/
def table (id : Nat) : Run Table := do
  return ((← machine).tables[id]?).getD {}

/-- Replaces a table. -/
def setTable (id : Nat) (t : Table) : Run Unit :=
  change fun m => { m with tables := m.tables.setIfInBounds id t }

/-- An element; looking at it puts it into the table. -/
def element (id : Nat) (key : Bytes) : Run Value := do
  let t ← table id
  match t.get? key with
  | some v => return v
  | none =>
    setTable id (t.set key .unset)
    return .unset

/-- Fills a table with texts that are numbered from one on. -/
def fillTable (id : Nat) (texts : List Bytes) : Run Unit :=
  setTable id ⟨((texts.zipIdx 1).map fun (t, i) => (Bytes.ofNat i, Value.input t)).reverse⟩

/-! ### Output -/

/-- Lets out what is printed. -/
def flush : Run Unit := do
  let m ← machine
  if !m.waiting.isEmpty then
    change fun m => { m with waiting := [] }
    work (Work.say m.waiting.reverse.flatten)

/-- Prints. -/
def print (text : Bytes) : Run Unit :=
  change fun m => { m with waiting := text :: m.waiting }

/-- The name under which the shell runs what is at the other end of a pipe. -/
def pipeShell : String := "/bin/sh"

/-- Starts a command under the name of the shell; gives how it has ended. -/
def command (ps : Programs) (shell : String) (text : Bytes) (streams : Act.Streams → Act.Streams) :
    Run ExitStatus :=
  work do
    let job ← read
    let result ← ps.start Programs.scriptReader
      { job with name := shell.toList, args := ["-c".toList, text], streams := streams job.streams }
    match result with
    | .ok status => return status
    | .error _ => return .code 127

/-- How a command has ended, as a number. -/
def statusNumber : ExitStatus → Int
  | .code n => n
  | .signal n => 256 + n

/-- The streams with another channel for one of them. -/
def withStream (n id : Nat) (streams : Act.Streams) : Act.Streams :=
  (n, id) :: streams.filter fun s => s.1 ≠ n

/-- Runs a command on what has been written for it. -/
def feed (ps : Programs) (name : Bytes) (pieces : List Bytes) : Run ExitStatus := do
  let id ← work (Act.addChannel (.source pieces.reverse.flatten))
  command ps pipeShell name (withStream 0 id)

/-- Writes to a file or for a command. -/
def write (outlet : Outlet) (name text : Bytes) : Run Unit := do
  if outlet ≠ .command && (name = "/dev/stdout".toList || name = ['-']) then print text
  else if outlet ≠ .command && name = "/dev/stderr".toList then work (Work.put 2 text)
  else
    match (← machine).drains.lookup name with
    | some drain => add drain
    | none =>
      if outlet = .command then
        flush
        add (.command [])
      else
        match ← work (do Act.openForWriting (← read).streams name (outlet = .fileEnd)) with
        | .ok id => add (.channel id)
        | .error e =>
          fault ("cannot open \"".toList ++ name ++ "\" for output (".toList ++ e.reason ++ [')'])
where
  /-- Writes, the one that is written to coming first from then on. -/
  add (drain : Drain) : Run Unit := do
    let drain : Drain ←
      match drain with
      | .channel id => do
        let _ ← work (Act.write id text)
        pure (.channel id)
      | .command pieces => pure (.command (text :: pieces))
    change fun m => { m with drains := (name, drain) :: m.drains.filter fun d => d.1 ≠ name }

/-- Closes what is written to and what is read from. -/
def close (ps : Programs) (name : Bytes) : Run Int := do
  let m ← machine
  change fun m =>
    { m with
      drains := m.drains.filter fun d => d.1 ≠ name
      sources := m.sources.filter fun t => t.name ≠ name }
  match m.drains.lookup name, m.sources.find? fun s => s.name = name with
  | some (.channel _), _ => return 0
  | some (.command pieces), _ => return statusNumber (← feed ps name pieces)
  | none, some s => return s.status
  | none, none => return -1

/-- Whether something is written to. -/
def isWritten (name : Bytes) : Run Bool := do
  return name.isEmpty || name = ['-'] || name = "/dev/stdout".toList || name = "/dev/stderr".toList ||
    ((← machine).drains.lookup name).isSome

/-! ### Input -/

/-- Takes the next record off a text. -/
def takeRecord (text : Bytes) : Run (Option (Bytes × Bytes)) := do
  let s : Separator ←
    match ← textIn "RS" with
    | [c] => pure (.char c)
    | _ => separator "RS"
  return s.readRecord? text

/-- An assignment among the arguments: a name and a value. -/
def assignment? (word : Bytes) : Option (Bytes × Value) :=
  let name := word.takeWhile (· ≠ '=')
  if name.length < word.length && (name.head?.map Token.startsName).getD false && name.all Token.inName then
    let text := word.drop (name.length + 1)
    match Token.readText (2 * text.length + 2) (text.flatMap (fun c => if c = '"' then ['\\', c] else [c]) ++ ['"']) with
    | some (t, _, _) => some (name, .input t)
    | none => some (name, .input text)
  else none

/-- Makes an assignment that is given from outside: to a variable and nothing else. -/
def assign (name : Bytes) (v : Value) : Run Unit := do
  let m ← machine
  if !Token.isFree name || (m.named.lookup name).isSome || m.program.tables.contains (none, .global name) ||
      m.program.functions.any (fun f => f.name = name) then
    runFault ("cannot command line assign to ".toList ++ name ++ "\n\ttype clash or keyword".toList)
  set name v

/-- The words about a file that cannot be read. -/
def readComplaint (name : Bytes) (e : FileError) : Bytes :=
  if e = .isDirectory then "read error (".toList ++ e.reason ++ [')']
  else "cannot open \"".toList ++ name ++ "\" (".toList ++ e.reason ++ [')']

/-- Opens the next file among the arguments, or the input if there is none; answers whether
    there is one. -/
def openNext : (fuel : Nat) → Run Bool
  | 0 => return false
  | fuel + 1 => do
    let m ← machine
    let total := toInteger (← get "ARGC").toNumber
    if total ≤ m.argument then
      if m.hasRead then return false
      take "-".toList
    else
      change fun m => { m with argument := m.argument + 1 }
      let key := Bytes.ofNat m.argument
      let t ← table (← tableOf (.global "ARGV".toList))
      match t.get? key with
      | none => openNext fuel
      | some v =>
        let word ← textOf v
        if word.isEmpty then openNext fuel
        else
          match assignment? word with
          | some (name, value) =>
            assign name value
            openNext fuel
          | none => take word
where
  /-- Opens a file. -/
  take (name : Bytes) : Run Bool := do
    match ← work (Work.contents name) with
    | .error e => fault (readComplaint name e)
    | .ok text =>
      change fun m => { m with main := some text, hasRead := true }
      put "FILENAME".toList (.text name)
      put "FNR".toList (.number 0)
      return true

/-- Reads the next record of the files among the arguments. -/
def readMain : (fuel : Nat) → Run (Option Bytes)
  | 0 => return none
  | fuel + 1 => do
    match (← machine).main with
    | some text =>
      match ← takeRecord text with
      | some (record, rest) =>
        change fun m => { m with main := some rest }
        count "NR"
        count "FNR"
        return some record
      | none =>
        change fun m => { m with main := none }
        readMain fuel
    | none =>
      if ← openNext ((toInteger (← get "ARGC").toNumber).toNat + 2) then readMain fuel else return none

/-- How many files are looked at for a record. -/
def fileLimit : Run Nat := do
  return 2 * ((toInteger (← get "ARGC").toNumber).toNat + 2)

/-- Reads the next record of a source; what is wrong is a number. -/
def readSource (name : Bytes) (isCommand : Bool) (opening : Run (Option Source)) : Run (Except Int Bytes) := do
  let known := (← machine).sources.find? fun s => s.name = name && s.isCommand == isCommand
  let source? ←
    match known with
    | some s => pure (some s)
    | none => opening
  match source? with
  | none => return .error (-1)
  | some s =>
    let others := fun (m : Machine) => m.sources.filter fun t => !(t.name = name && t.isCommand == isCommand)
    match ← takeRecord s.rest with
    | none =>
      change fun m => { m with sources := { s with rest := [] } :: others m }
      return .error 0
    | some (record, rest) =>
      change fun m => { m with sources := { s with rest := rest } :: others m }
      return .ok record

/-- Reads the next record of a file. -/
def readFile (name : Bytes) : Run (Except Int Bytes) :=
  readSource name false do
    match ← work (Work.contents name) with
    | .ok text => return some ⟨name, false, text, 0⟩
    | .error e => if e = .isDirectory then fault (readComplaint name e) else return none

/-- Reads the next record of what a command writes. -/
def readCommand (ps : Programs) (name : Bytes) : Run (Except Int Bytes) :=
  readSource name true do
    flush
    let id ← work (Act.addChannel (.sink []))
    let status ← command ps pipeShell name (withStream 1 id)
    let text ← work (Act.turnAround id)
    return some ⟨name, true, text, statusNumber status⟩

end Run

end Lifelines.Awk
