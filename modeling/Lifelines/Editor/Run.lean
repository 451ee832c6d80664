import Lifelines.Editor.Script
import Lifelines.Utility.Entries

/-!
# Running the stream editor

The lines of some files are read one by one into the pattern space, and for each
the commands of a script are carried out. After them the pattern space is
printed, and then what is to be added after it. There is a second text, the *hold
space*, that commands exchange with the pattern space.

A last line that lacks its newline is printed without it, unless something is
printed after it.

* `Editor.edited`: what a substitution makes of a text;
* `sed`.
-/

namespace Lifelines.Editor

open Pattern

/-! ### Substitutions -/

/-- A text some letters of which are changed: the next one, and all others. -/
def cased (next all : Casing) (t : Bytes) : Bytes :=
  let change (c : Casing) (x : Char) : Char :=
    match c with
    | .upper => x.toUpper
    | .lower => x.toLower
    | .kept => x
  match t with
  | [] => []
  | x :: rest => (if next = .kept then change all x else change next x) :: rest.map (change all)

/-- What is put in for a match. -/
def inserted (subject : Array Char) (f : Regex.Found) : (next all : Casing) → List Insertion → Bytes
  | _, _, [] => []
  | _, _, .casing c :: rest => inserted subject f .kept c rest
  | _, all, .nextCasing c :: rest => inserted subject f c all rest
  | next, all, .text t :: rest => put next all t rest
  | next, all, .group n :: rest => put next all (f.groupText subject n) rest
where
  /-- Puts in a text; a change for the next letter waits for one. -/
  put (next all : Casing) (t : Bytes) (rest : List Insertion) : Bytes :=
    cased next all t ++ inserted subject f (if t.isEmpty then next else .kept) all rest

/-- The text that a substitution makes of a text, if it replaces anything. -/
def edited (r : Regex) (s : Substitution) (text : Bytes) : Option Bytes :=
  let subject := text.toArray
  let found := (r.all subject).drop (s.first - 1)
  let found := if s.all then found else found.take 1
  if found.isEmpty then none
  else
    let (done, place) := found.foldl (fun (done, place) (f : Regex.Found) =>
      (inserted subject f .kept .kept s.insertions :: Regex.Found.part subject place f.start :: done, f.stop))
      (([] : List Bytes), 0)
    some ((Regex.Found.part subject place subject.size :: done).reverse.flatten)

/-- A text in which no character is doubtful, in lines of a width. -/
def unambiguous (width : Nat) (text : Bytes) : Bytes :=
  wrap 0 (text.map shown) ++ ['$', '\n']
where
  /-- How a character is shown. -/
  shown (c : Char) : Bytes :=
    match c with
    | '\\' => ['\\', '\\']
    | '\x07' => ['\\', 'a']
    | '\x08' => ['\\', 'b']
    | '\x0c' => ['\\', 'f']
    | '\n' => ['\\', 'n']
    | '\r' => ['\\', 'r']
    | '\t' => ['\\', 't']
    | '\x0b' => ['\\', 'v']
    | c =>
      if ' ' ≤ c && c ≤ '~' then [c]
      else '\\' :: Bytes.padLeft 3 '0' (Nat.toDigits 8 c.toNat)
  /-- Breaks lines that are too long. -/
  wrap (column : Nat) : List Bytes → Bytes
    | [] => []
    | piece :: rest =>
      if 0 < width && width ≤ column + piece.length then
        ['\\', '\n'] ++ piece ++ wrap piece.length rest
      else piece ++ wrap (column + piece.length) rest

/-! ### Lines -/

/-- A text that is being edited, and whether a newline ends it. -/
structure Space where
  text : Bytes := []
  ended : Bool := true

/-- A file that is being read: its name, its channel, its lines that are left and how many
    bytes have been taken from it. -/
structure OpenFile where
  name : Bytes
  channel : Nat
  lines : List Bytes
  taken : Nat := 0

/-- What is added after a line. -/
inductive Addition where
  | text (t : Bytes)
  | file (path : Bytes)

/-- The stage that a range of lines is at. -/
inductive RangeStage where
  | before
  /-- In the range; the number of its last line, if it is known. -/
  | within (last : Option Nat)
  | past
  deriving DecidableEq

/-- How the editor is used. -/
structure Setting where
  script : Array Command
  quiet : Bool := false
  separate : Bool := false
  /-- Whether files are changed, and the ending of the names of their copies. -/
  inPlace : Option Bytes := none
  width : Nat := 70
  separator : Char := '\n'

/-- What there is at work. -/
structure Desk where
  space : Space := {}
  hold : Space := {}
  /-- The number of the line. -/
  line : Nat := 0
  /-- Whether anything has been replaced since the line was read. -/
  replaced : Bool := false
  additions : List Addition := []
  files : List Bytes := []
  current : Option OpenFile := none
  /-- The name of the file of the line. -/
  name : Bytes := ['-']
  ranges : List (Nat × RangeStage) := []
  last : Option Regex := none
  /-- Where output goes. -/
  output : Option Nat := none
  /-- The channels for files that are written, and for files that are read line by line. -/
  written : List (Bytes × Nat) := []
  sources : List (Bytes × Nat) := []
  /-- The channels the last line of which lacks its newline. -/
  unended : List Nat := []
  status : Nat := 0

/-- Editing. -/
abbrev Editing := StateT Desk Work

namespace Editing

/-- Writes to a channel; a line there that lacks its newline gets it first. -/
def put (channel : Option Nat) (text : Bytes) (ended : Bool) : Editing Unit := do
  match channel with
  | none => return
  | some id =>
    let d ← get
    let missing : Bytes := if d.unended.contains id then ['\n'] else []
    let _ ← Act.write id (missing ++ text)
    let others := d.unended.filter (· ≠ id)
    set { d with unended := if ended then others else id :: others }

/-- Writes a space to a channel. -/
def putSpace (e : Setting) (channel : Option Nat) (s : Space) : Editing Unit :=
  put channel (s.text ++ (if s.ended then [e.separator] else [])) s.ended

/-- Writes what is to be added after a line. -/
def putAdditions : Editing Unit := do
  let d ← get
  set { d with additions := [] }
  for a in d.additions do
    match a with
    | .text t => put d.output t true
    | .file path =>
      match ← Act.readFile (← readThe Job).streams path with
      | .ok t => if !t.isEmpty then put d.output t true
      | .error _ => pure ()

/-- Opens the next file that can be read; there may be none. -/
def openNext (e : Setting) : (fuel : Nat) → Editing Unit
  | 0 => return
  | fuel + 1 => do
    let d ← get
    match d.files with
    | [] => return
    | path :: files =>
      set { d with files := files }
      let job ← readThe Job
      let opened ←
        if path = ['-'] && e.inPlace.isNone then
          pure ((job.streams.lookup 0).elim (.error .notFound) .ok)
        else Act.openForReading job.streams path
      match opened with
      | .error err =>
        Work.complain ("can't read ".toList ++ plain path ++ ": ".toList ++ err.reason)
        modify fun d => { d with status := 2 }
        openNext e fuel
      | .ok id =>
        if ← Act.isDirectoryChannel id then
          if e.inPlace.isSome then
            Work.complain ("couldn't edit ".toList ++ plain path ++ ": not a regular file".toList)
          else
            Work.complain ("read error on ".toList ++ plain path ++ ": Is a directory".toList)
          modify fun d => { d with status := 4 }
          if e.inPlace.isSome then openNext e fuel
          else modify fun d => { d with files := [] }
        else
          let text ← Act.pending id
          let pieces := Bytes.splitOn e.separator text
          let lines :=
            (pieces.dropLast.map fun l => l ++ [e.separator]) ++
              ((pieces.getLast?.toList).filter fun l => !l.isEmpty)
          modify fun d => { d with current := some { name := path, channel := id, lines := lines } }
          if e.inPlace.isSome then
            let sink ← Act.addChannel (.sink [])
            modify fun d => { d with output := some sink }
          if e.separate then
            modify fun d => { d with line := 0, ranges := [] }
where
  /-- The name of a file as it stands in complaints. -/
  plain (path : Bytes) : Bytes :=
    path

/-- Ends the reading of the file; one that is changed is written. -/
def closeCurrent (e : Setting) : Editing Unit := do
  let d ← get
  match d.current with
  | none => return
  | some r =>
    match e.inPlace, d.output with
    | some ending, some sink =>
      let text ← Act.turnAround sink
      if !ending.isEmpty then
        let copy := if ending.contains '*' then ending.flatMap (fun c => if c = '*' then Utility.baseName r.name else [c])
          else r.name ++ ending
        match ← Act.readFile (← readThe Job).streams r.name with
        | .ok before =>
          let _ ← Work.store copy before
        | .error _ => pure ()
      let _ ← Work.store r.name text
    | _, _ => Act.skip r.channel (r.taken + r.lines.flatten.length)
    set { d with current := none, unended := if e.inPlace.isSome then [] else d.unended }

/-- Finds the next line: opens files until there is one, unless each file counts for
    itself and the one at hand has been read to its end. -/
def lookAhead (e : Setting) (across : Bool) : (fuel : Nat) → Editing Unit
  | 0 => return
  | fuel + 1 => do
    let d ← get
    match d.current with
    | some r =>
      if r.lines.isEmpty && (across || !e.separate) && !d.files.isEmpty then
        closeCurrent e
        openNext e (d.files.length + 1)
        lookAhead e across fuel
    | none =>
      if !d.files.isEmpty then
        openNext e (d.files.length + 1)
        lookAhead e across fuel

/-- Whether the line at hand is the last one. -/
def isLast (e : Setting) : Editing Bool := do
  lookAhead e false ((← get).files.length + 2)
  match (← get).current with
  | some r => return r.lines.isEmpty
  | none => return true

/-- Reads a line into the pattern space, or adds it there; answers whether there was
    one. -/
def readLine (e : Setting) (adding : Bool) : Editing Bool := do
  putAdditions
  let d ← get
  match d.current with
  | some r => if r.lines.isEmpty then closeCurrent e
  | none => pure ()
  lookAhead e true (d.files.length + 2)
  let d ← get
  match d.current with
  | none => return false
  | some r =>
    match r.lines with
    | [] =>
      closeCurrent e
      return false
    | line :: rest =>
      let ended := line.getLast? = some e.separator
      let text := if ended then line.dropLast else line
      let text := if adding then d.space.text ++ e.separator :: text else text
      set { d with
        space := ⟨text, ended⟩, line := d.line + 1, name := r.name
        current := some { r with lines := rest, taken := r.taken + line.length } }
      return true

/-! ### Addresses -/

/-- The pattern that is meant; if none is given, the one used last. -/
def patternOf (r : Option Regex) : Editing (Option Regex) := do
  match r with
  | some r =>
    modify fun d => { d with last := some r }
    return some r
  | none => return (← get).last

/-- Whether the line at hand is what an address says; nothing if there is no pattern. -/
def isAt (e : Setting) (a : Address) : Editing (Option Bool) := do
  let d ← get
  match a with
  | .line n => return some (d.line = n)
  | .step first distance =>
    return some (if distance = 0 then d.line = first else first ≤ d.line && (d.line - first) % distance = 0)
  | .last => return some (← isLast e)
  | .fitting r =>
    match ← patternOf r with
    | some r => return some (r.occursIn d.space.text)
    | none => return none

/-- Sets the stage of the range of a command. -/
def setStage (n : Nat) (stage : RangeStage) : Editing Unit :=
  modify fun d => { d with ranges := (n, stage) :: d.ranges.filter fun r => r.1 ≠ n }

/-- Whether the line at hand is in the range of the command with number `n`. -/
def isInRange (e : Setting) (n : Nat) (start : Address) (stop : RangeEnd) : Editing (Option Bool) := do
  let d ← get
  let first : RangeStage :=
    match start with
    | .line 0 => .within none
    | _ => .before
  match (d.ranges.lookup n).getD first with
  | .within (some last) =>
    if last ≤ d.line then setStage n .past
    return some (d.line ≤ last)
  | .within none =>
    match stop with
    | .at a =>
      match ← isAt e a with
      | some true =>
        setStage n .past
        return some true
      | some false => return some true
      | none => return none
    | _ => return some true
  | stage =>
    if stage = .past && (match start with | .line _ => true | _ => false) then return some false
    match ← isAt e start with
    | some true =>
      match stop with
      | .at (.line last) => setStage n (if last ≤ d.line then .past else .within (some last))
      | .after count => setStage n (if count = 0 then .past else .within (some (d.line + count)))
      | .multiple m =>
        let last := if m = 0 then d.line else (d.line + m - 1) / m * m
        setStage n (if last ≤ d.line then .past else .within (some last))
      | .at _ => setStage n (.within none)
      return some true
    | other => return other

/-- Whether a command is carried out for the line at hand. -/
def applies (e : Setting) (n : Nat) (s : Scope) : Editing (Option Bool) := do
  let inside ←
    match s.start, s.stop with
    | none, _ => pure (some true)
    | some a, none => isAt e a
    | some a, some stop => isInRange e n a stop
  return inside.map fun b => b != s.negated

/-! ### Commands -/

/-- Where commands go on. -/
inductive Next where
  | at (n : Nat)
  /-- With the next line, the pattern space being printed or not. -/
  | nextLine (printing : Bool)
  /-- With the first command, no line being read. -/
  | again
  | quit (printing : Bool) (status : Nat)
  /-- There is no pattern that has been used last. -/
  | noPattern

/-- The channel for a file that is written. -/
def channelFor (path : Bytes) : Editing (Option Nat) := do
  match String.ofList path with
  | "/dev/stdout" => return (← readThe Job).streams.lookup 1
  | "/dev/stderr" => return (← readThe Job).streams.lookup 2
  | _ => return (← get).written.lookup path

/-- The next line of a file that is read line by line. -/
def sourceLine (path : Bytes) : Editing (Option Bytes) := do
  let id ← do
    match (← get).sources.lookup path with
    | some id => pure (some id)
    | none =>
      match ← Act.openForReading (← readThe Job).streams path with
      | .ok id =>
        modify fun d => { d with sources := (path, id) :: d.sources }
        pure (some id)
      | .error _ => pure none
  match id with
  | none => return none
  | some id =>
    let line ← Act.readLine id
    return if line.isEmpty then none else some (Bytes.withoutNewline line)

/-- Carries out the command with number `n`. -/
def perform (e : Setting) (n : Nat) (scope : Scope) (a : Action) : Editing Next := do
  let d ← get
  let onwards : Next := .at (n + 1)
  let change (s : Space) : Editing Next := do
    modify fun d => { d with space := s }
    return onwards
  match a with
  | .enter _ | .leave | .nothing => return onwards
  | .jump test _ target =>
    let taken :=
      match test with
      | .always => true
      | .replaced => d.replaced
      | .notReplaced => !d.replaced
    if test ≠ .always then set { d with replaced := false }
    return if taken then .at target else onwards
  | .append text =>
    set { d with additions := d.additions ++ [Addition.text text] }
    return onwards
  | .insert text =>
    put d.output text true
    return onwards
  | .change text =>
    let within :=
      match d.ranges.lookup n, scope.negated with
      | some (.within _), false => true
      | _, _ => false
    if !within then put d.output text true
    return .nextLine false
  | .delete => return .nextLine false
  | .deleteFirst =>
    if d.space.text.contains e.separator then
      let rest := (d.space.text.dropWhile (· ≠ e.separator)).drop 1
      set { d with space := { d.space with text := rest } }
      return .again
    else return .nextLine false
  | .fileName =>
    put d.output (d.name ++ ['\n']) true
    return onwards
  | .get => change d.hold
  | .getMore => change ⟨d.space.text ++ e.separator :: d.hold.text, d.hold.ended⟩
  | .hold =>
    set { d with hold := d.space }
    return onwards
  | .holdMore =>
    set { d with hold := ⟨d.hold.text ++ e.separator :: d.space.text, d.space.ended⟩ }
    return onwards
  | .exchange =>
    set { d with space := d.hold, hold := d.space }
    return onwards
  | .list width =>
    put d.output (unambiguous (width.getD e.width) d.space.text) true
    return onwards
  | .next =>
    if ← isLast e then
      if (← get).files.isEmpty || !e.separate then return .quit true 0
    if !e.quiet then putSpace e d.output d.space
    if ← readLine e false then return onwards else return .quit false 0
  | .nextMore =>
    if ← isLast e then
      if (← get).files.isEmpty || !e.separate then return .quit true 0
    if ← readLine e true then return onwards else return .quit true 0
  | .print =>
    putSpace e d.output d.space
    return onwards
  | .printFirst =>
    let first := d.space.text.takeWhile (· ≠ e.separator)
    if first.length < d.space.text.length then putSpace e d.output ⟨first, true⟩
    else putSpace e d.output d.space
    return onwards
  | .quit printing status => return .quit printing status
  | .readFile path =>
    set { d with additions := d.additions ++ [Addition.file path] }
    return onwards
  | .readLine path =>
    match ← sourceLine path with
    | some line => modify fun d => { d with additions := d.additions ++ [Addition.text (line ++ ['\n'])] }
    | none => pure ()
    return onwards
  | .substitute s =>
    match ← patternOf s.pattern with
    | none => return .noPattern
    | some r =>
      match edited r s d.space.text with
      | none => return onwards
      | some text =>
        let space : Space := { d.space with text := text }
        modify fun d => { d with space := space, replaced := true }
        if s.prints ≠ 0 then putSpace e d.output space
        match s.output with
        | some path => putSpace e (← channelFor path) space
        | none => pure ()
        return onwards
  | .writeFile path =>
    putSpace e (← channelFor path) d.space
    return onwards
  | .writeFirst path =>
    let first := d.space.text.takeWhile (· ≠ e.separator)
    putSpace e (← channelFor path) ⟨first, true⟩
    return onwards
  | .exchangeLetters source target =>
    let pairs := source.zip target
    change { d.space with text := d.space.text.map fun c => (pairs.lookup c).getD c }
  | .clear => change { d.space with text := [] }
  | .lineNumber =>
    put d.output (Bytes.ofNat d.line ++ ['\n']) true
    return onwards

/-- Ends the work, the lines of a file that is changed being left out from here on. -/
def finish (e : Setting) (status : Nat) : Editing Nat := do
  let d ← get
  match d.current with
  | some r =>
    if e.inPlace.isSome then closeCurrent e
    else
      -- what has not been read can be read by others, if it is a file
      match ← Act.channel r.channel with
      | .file _ _ _ => Act.skip r.channel r.taken
      | _ => closeCurrent e
  | none => pure ()
  return if status = 0 then d.status else status

/-- Carries out commands from the one with number `n` on. At most `fuel` commands are
    carried out. -/
def run (e : Setting) : (fuel : Nat) → (n : Nat) → Editing Nat
  | 0, _ => do
    Act.stopEndless
    return 1
  | fuel + 1, n => do
    let next ←
      match e.script[n]? with
      | none => pure (.nextLine true)
      | some c =>
        match ← applies e n c.scope with
        | none => pure .noPattern
        | some true => perform e n c.scope c.action
        | some false =>
          match c.action with
          | .enter stop => pure (.at (stop + 1))
          | _ => pure (.at (n + 1))
    let d ← get
    match next with
    | .at n => run e fuel n
    | .nextLine printing =>
      if printing && !e.quiet then putSpace e d.output d.space
      if ← readLine e false then
        modify fun d => { d with replaced := false }
        run e fuel 0
      else finish e 0
    | .again =>
      putAdditions
      run e fuel 0
    | .quit printing status =>
      if printing && !e.quiet then putSpace e d.output d.space
      putAdditions
      finish e status
    | .noPattern =>
      Work.complain ("-e expression #1, char 0: ".toList ++ Fault.noLastPattern.message)
      return 1

/-- How many commands may be carried out. -/
def stepLimit : Nat := 3000000

end Editing

/-- The files that the commands of a script write. -/
def outputsOf (script : Array Command) : List Bytes :=
  (script.toList.filterMap fun c =>
    match c.action with
    | .writeFile path | .writeFirst path => some path
    | .substitute s => s.output
    | _ => none).eraseDups

/-- Edits files with a script. -/
def edit (e : Setting) (files : List Bytes) : Work Nat := do
  let job ← read
  let mut written := #[]
  for path in outputsOf e.script do
    if path ≠ "/dev/stdout".toList && path ≠ "/dev/stderr".toList then
      match ← Act.openForWriting job.streams path false with
      | .ok id => written := written.push (path, id)
      | .error err =>
        return ← Work.fail 4 ("couldn't open file ".toList ++ path ++ ": ".toList ++ err.reason)
  let start : Desk := {
    files := if files.isEmpty then [['-']] else files
    output := job.streams.lookup 1, written := written.toList }
  let go : Editing Nat := do
    if ← Editing.readLine e false then Editing.run e Editing.stepLimit 0 else Editing.finish e 0
  return (← StateT.run go start).1

/-- The parts of a script that options give, or the file that is not accessible. -/
def partsOf (g : Utility.Given) : Work (Except (Bytes × FileError) (List Part)) := do
  let mut parts := #[]
  let mut n := 0
  for (c, value) in g.options do
    if c = 'e' then
      n := n + 1
      parts := parts.push (Part.text n value)
    else if c = 'f' then
      match ← Work.contents value with
      | .ok text => parts := parts.push (Part.file value text)
      | .error err => return .error (value, err)
  return .ok parts.toList

end Lifelines.Editor

namespace Lifelines.Utility

open Editor

/-- Says how the stream editor is used. -/
def editorUsage (status : Nat) : Work Nat := do
  let name := (← read).name
  Work.note ("Usage: ".toList ++ name ++
    " [OPTION]... \x7bscript-only-if-no-other-script\x7d [input-file]...".toList)
  return status

/-- Edits lines. -/
def sed : Work Nat := do
  let names := [("quiet", 'n'), ("silent", 'n'), ("expression", 'e'), ("file", 'f'), ("in-place", 'i'),
    ("line-length", 'l'), ("posix", 'p'), ("regexp-extended", 'E'), ("separate", 's'),
    ("unbuffered", 'u'), ("null-data", 'z'), ("zero-terminated", 'z'), ("debug", 'D'),
    ("sandbox", 'S'), ("follow-symlinks", 'F')]
  let shape : OptionShape := { letters := letters "bsnrzuEe:f:l:i::V:pDSF", names := names }
  match readOptions shape (← read).args with
  | .error fault =>
    Work.complain fault.message
    editorUsage 1
  | .ok g =>
    match ← partsOf g with
    | .error (path, err) =>
      Work.fail 4 ("couldn't open file ".toList ++ path ++ ": ".toList ++ err.reason)
    | .ok given =>
      let parts := if given.isEmpty then (g.operands.head?.map (Part.text 1)).toList else given
      let files := if given.isEmpty then g.operands.drop 1 else g.operands
      if parts.isEmpty then editorUsage 1
      else
        match Script.read? (g.has 'E' || g.has 'r') parts with
        | .error (.at spot fault) => Work.fail 1 (spot.words ++ ": ".toList ++ fault.message)
        | .error (.noSuchLabel name) =>
          Work.fail 1 ("can't find label for jump to \x60".toList ++ name ++ ['\''])
        | .ok script =>
          let setting : Setting := {
            script := script.commands, quiet := g.has 'n' || script.quiet
            separate := g.has 's' || g.has 'i', inPlace := g.value? 'i'
            width := ((g.value? 'l').bind Bytes.toNat?).getD 70
            separator := if g.has 'z' then '\x00' else '\n' }
          edit setting files

end Lifelines.Utility
