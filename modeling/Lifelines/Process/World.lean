import Lifelines.Files.Change
import Lifelines.Text.Bytes
import Lifelines.Tool

/-!
# What processes share

Processes share the files and the open channels between them. A channel is read
or written bit by bit: a text that is being read, a text that is being written,
a file with a place in it, or one of the devices that are always there. There is
a clock that only waiting moves.

* `Channel`, `World`;
* `Act`: computations that change a world;
* `Act.readAll`, `Act.readLine`, `Act.write`: the use of channels;
* `Act.openForReading`, `Act.openForWriting`: channels for paths.
-/

namespace Lifelines

/-- An open channel. -/
inductive Channel where
  /-- A text that is read; what is left of it. -/
  | source (rest : Bytes)
  /-- A text that is written; its pieces so far, the latest first. -/
  | sink (pieces : List Bytes)
  /-- A file, the place in it where reading or writing goes on, and whether writing
      goes on at its end instead. -/
  | file (location : Location) (position : Nat) (append : Bool)
  /-- Nothing to read, and all that is written is lost. -/
  | nothing
  /-- Zero bytes without end. -/
  | zeros
  /-- A full disk. -/
  | full

/-- Whether the processes that run are stopped, and why. -/
inductive Halt where
  | running
  /-- A process goes on for ever. -/
  | endless
  /-- A process has not ended in time. -/
  | late
  deriving DecidableEq

/-- What processes share. -/
structure World where
  files : FileTree
  channels : Array Channel := #[]
  /-- The time that has been waited for, in milliseconds. -/
  elapsed : Nat := 0
  /-- When the processes that run are stopped. -/
  deadline : Option Nat := none
  halt : Halt := .running
  /-- The names of the programs at the usual places. -/
  programs : List Bytes := []
  /-- The signals that have been sent and not yet been noticed, with the processes that
      they are for. -/
  signals : List (Nat × Nat) := []
  /-- The number of the next process. -/
  nextProcess : Nat := 4711

/-- Computations that change what processes share. -/
abbrev Act := StateM World

namespace Act

/-- Adds a channel; gives its number. -/
def addChannel (c : Channel) : Act Nat :=
  modifyGet fun w => (w.channels.size, { w with channels := w.channels.push c })

/-- A channel. -/
def channel (id : Nat) : Act Channel := do
  return ((← get).channels[id]?).getD .nothing

/-- Replaces a channel. -/
def setChannel (id : Nat) (c : Channel) : Act Unit :=
  modify fun w => { w with channels := w.channels.setIfInBounds id c }

/-- The contents of the file at a location. -/
def contentsAt (l : Location) : Act Bytes := do
  return (((← get).files.contents? l).map Bytes.ofByteArray).getD []

/-- How many zero bytes are read at once. -/
def zeroBlock : Nat := 65536

/-- What is left to read on a channel, without reading it. -/
def pending (id : Nat) : Act Bytes := do
  match ← channel id with
  | .source rest => return rest
  | .file l position _ => return (← contentsAt l).drop position
  | .zeros => return List.replicate zeroBlock '\x00'
  | _ => return []

/-- Counts bytes on a channel as read. -/
def skip (id count : Nat) : Act Unit := do
  match ← channel id with
  | .source rest => setChannel id (.source (rest.drop count))
  | .file l position append => setChannel id (.file l (position + count) append)
  | _ => return

/-- Reads all that is left. -/
def readAll (id : Nat) : Act Bytes := do
  let bytes ← pending id
  skip id bytes.length
  return bytes

/-- Reads a line with the newline that ends it; nothing at the end. -/
def readLine (id : Nat) : Act Bytes := do
  let bytes ← pending id
  let line := bytes.takeWhile (· ≠ '\n')
  let line := if line.length < bytes.length then line ++ ['\n'] else line
  skip id line.length
  return line

/-- A text some of which is written over from a place on. -/
def overwrite (contents : Bytes) (position : Nat) (bytes : Bytes) : Bytes :=
  let start := contents.take position
  start ++ List.replicate (position - start.length) '\x00' ++ bytes ++
    contents.drop (position + bytes.length)

/-- Writes to a channel; answers whether there was room. -/
def write (id : Nat) (bytes : Bytes) : Act Bool := do
  match ← channel id with
  | .sink pieces =>
    setChannel id (.sink (bytes :: pieces))
    return true
  | .file l position append =>
    let w ← get
    match w.files.node? l with
    | some (.file contents executable) =>
      let before := Bytes.ofByteArray contents
      let position := if append then before.length else position
      let after := Bytes.toByteArray (overwrite before position bytes)
      set { w with files := w.files.put l (.file after executable) }
      setChannel id (.file l (position + bytes.length) append)
    | _ => return true
    return true
  | .full => return bytes.isEmpty
  | _ => return true

/-- Turns a text that has been written into one that is read; gives it, too. -/
def turnAround (id : Nat) : Act Bytes := do
  match ← channel id with
  | .sink pieces =>
    let text := pieces.reverse.flatten
    setChannel id (.source text)
    return text
  | _ => return []

/-- Lets time pass; processes that are to be stopped before it has passed are stopped
    then. -/
def wait (milliseconds : Nat) : Act Unit :=
  modify fun w =>
    let after := w.elapsed + milliseconds
    match w.deadline with
    | some d => if d ≤ after then { w with elapsed := d, halt := .late } else { w with elapsed := after }
    | none => { w with elapsed := after }

/-- Whether the processes that run are stopped. -/
def isStopped : Act Bool := do
  return (← get).halt ≠ .running

/-- Stops the processes that run, one of them going on for ever. -/
def stopEndless : Act Unit :=
  modify fun w => { w with halt := if w.halt = .running then .endless else w.halt }

/-- Sends a signal to a process. -/
def send (process signal : Nat) : Act Unit :=
  modify fun w => { w with signals := w.signals ++ [(process, signal)] }

/-- The signals that have been sent to a process; they are noticed by this. -/
def receive (process : Nat) : Act (List Nat) :=
  modifyGet fun w =>
    let (mine, others) := w.signals.partition fun s => s.1 = process
    (mine.map (·.2), { w with signals := others })

/-- The number of a new process. -/
def newProcess : Act Nat :=
  modifyGet fun w => (w.nextProcess, { w with nextProcess := w.nextProcess + 1 })

/-- The file names that stand for devices. -/
def device? (path : Bytes) : Option Channel :=
  match String.ofList path with
  | "/dev/null" => some .nothing
  | "/dev/zero" => some .zeros
  | "/dev/full" => some .full
  | _ => none

/-- The number of the stream that a path stands for. -/
def streamOf? (path : Bytes) : Option Nat :=
  match String.ofList path with
  | "/dev/stdin" => some 0
  | "/dev/stdout" => some 1
  | "/dev/stderr" => some 2
  | _ =>
    match Bytes.dropStart? "/dev/fd/".toList path with
    | some digits => Bytes.toNat? digits
    | none => none

/-- The usual places of programs. -/
def programDirectories : List Bytes :=
  ["/usr/bin".toList, "/bin".toList]

/-- The shortest way to write a path from the root. -/
def shortest (path : Bytes) : Bytes :=
  let names := (Bytes.splitOn '/' path).foldl (fun names c =>
    if c.isEmpty || c = ['.'] then names
    else if c = ['.', '.'] then names.drop 1
    else c :: names) []
  '/' :: Bytes.join ['/'] names.reverse

/-- The program at a usual place that a path leads to. -/
def standardProgram? (programs : List Bytes) (path : Bytes) : Option Bytes :=
  if path.head? ≠ some '/' then none
  else
    programDirectories.findSome? fun dir =>
      match Bytes.dropStart? (dir ++ ['/']) (shortest path) with
      | some name => if programs.contains name then some name else none
      | none => none

/-- The path of a location, from the root. -/
def pathOf (l : Location) : Bytes :=
  '/' :: Bytes.join ['/'] (l.map Bytes.ofString)

/-- Whether a path leads to one of the directories that are always there. -/
def isStandardDirectory (path : Bytes) : Bool :=
  path.head? = some '/' &&
    (programDirectories.contains (shortest path) ||
      ["/", "/dev", "/usr", "/etc", "/usr/sbin", "/sbin"].contains (String.ofList (shortest path)))

/-- What a path leads to. -/
inductive FileKind where
  | file (size : Nat) (executable : Bool)
  | directory
  | device
  deriving DecidableEq

/-- What a path leads to, or why it leads nowhere. -/
def kind (path : Bytes) : Act (Except FileError FileKind) := do
  let w ← get
  if (device? path).isSome || (streamOf? path).isSome then return .ok .device
  else if (standardProgram? w.programs path).isSome then return .ok (.file 65536 true)
  else if isStandardDirectory path then return .ok .directory
  else
    match w.files.lookup path.toText with
    | .ok .directory => return .ok .directory
    | .ok (.file contents executable) => return .ok (.file contents.size executable)
    | .error e => return .error e

/-- What a path leads to, if it leads anywhere. -/
def kind? (path : Bytes) : Act (Option FileKind) := do
  return (← kind path).toOption

/-- The streams of a process: their numbers and their channels. -/
abbrev Streams := List (Nat × Nat)

/-- A request on the files. -/
def filing {α : Type} (f : Filing α) : Act (Except FileError α) := do
  let w ← get
  let (result, files) := (ExceptT.run f).run w.files
  set { w with files := files }
  return result

/-- The channel of a stream, if a path stands for one, or that of a device. -/
def openSpecial (streams : Streams) (path : Bytes) : Act (Option (Except FileError Nat)) := do
  match device? path with
  | some c => return some (.ok (← addChannel c))
  | none =>
    match streamOf? path with
    | some n => return some ((streams.lookup n).elim (.error .notFound) .ok)
    | none => return none

/-- A channel for reading a file. -/
def openForReading (streams : Streams) (path : Bytes) : Act (Except FileError Nat) := do
  match ← openSpecial streams path with
  | some result => return result
  | none =>
    let files := (← get).files
    match files.locate path.toText with
    | .error e => return .error e
    | .ok l =>
      match files.node? l with
      | none => return .error .notFound
      | some _ => return .ok (← addChannel (.file l 0 false))

/-- A channel for writing a file, from its start or at its end. -/
def openForWriting (streams : Streams) (path : Bytes) (append : Bool) :
    Act (Except FileError Nat) := do
  match ← openSpecial streams path with
  | some result => return result
  | none =>
    let path := path.toText
    let prepare : Filing Location := do
      if !append || !(← get).leadsToFile path then Filing.write path ByteArray.empty
      Filing.locate path
    match ← filing prepare with
    | .error e => return .error e
    | .ok l => return .ok (← addChannel (.file l 0 append))

/-- What a directory has to say to someone who reads it. -/
def isDirectoryChannel (id : Nat) : Act Bool := do
  match ← channel id with
  | .file l _ _ => return (← get).files.node? l == some .directory
  | _ => return false

/-- The contents of a file. -/
def readFile (streams : Streams) (path : Bytes) : Act (Except FileError Bytes) := do
  match ← openForReading streams path with
  | .error e => return .error e
  | .ok id =>
    if ← isDirectoryChannel id then return .error .isDirectory
    return .ok (← readAll id)

end Act

end Lifelines
