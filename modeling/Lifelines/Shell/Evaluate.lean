import Lifelines.Shell.Builtin

/-!
# The evaluation of commands

A simple command is a function, a command of the shell itself or a program; its
words are expanded first, then its streams are set up, then its assignments are
made. Conditions and the left parts of conjunctions and disjunctions are guarded:
a status other than zero does not end the shell there, though an option may say
that it does elsewhere.

A loop that goes on for very long is taken to go on for ever.

* `Evaluate.step`: a command, the runner for what is inside it being given;
* `Evaluate.runner`: the runner for commands that are not too deep.
-/

namespace Lifelines.Shell.Evaluate

/-! ### Streams -/

/-- Puts a channel at a stream. -/
def setStream (stream id : Nat) : Eval Unit :=
  modify fun s => { s with streams := (stream, id) :: s.streams.filter fun p => p.1 ≠ stream }

/-- The path that the word of a redirection stands for. -/
def redirectPath (r : Runner) (w : Word) : Eval (Except Bytes Bytes) := do
  if (← get).isExtended then
    match ← Expand.fields r [w] with
    | [path] => return .ok path
    | _ => return .error (((plainText? w).getD []) ++ ": ambiguous redirect".toList)
  else return .ok (← Expand.text r w)

/-- What is said about a file that cannot be opened. -/
def openComplaint (s : Session) (writing : Bool) (path : Bytes) (e : FileError) : Bytes :=
  if s.isExtended then path ++ ": ".toList ++ e.reason
  else
    let missing := e = .notFound || e = .notDirectory
    if writing then
      "cannot create ".toList ++ path ++ ": ".toList ++
        (if missing then "Directory nonexistent".toList else e.reason)
    else
      "cannot open ".toList ++ path ++ ": ".toList ++
        (if missing then "No such file".toList else e.reason)

/-- Opens a file for a stream; answers what is wrong. -/
def openFile (r : Runner) (w : Word) (writing append clobber : Bool) : Eval (Except Bytes Nat) := do
  match ← redirectPath r w with
  | .error e => return .error e
  | .ok path =>
    let s ← get
    let isFile ←
      match ← Eval.act (Act.kind? path) with
      | some (.file _ _) => pure true
      | _ => pure false
    if writing && !append && !clobber && s.has 'C' && isFile then
      return .error (if s.isExtended then path ++ ": cannot overwrite existing file".toList
        else openComplaint s true path .alreadyExists)
    let result ← Eval.act
      (if writing then Act.openForWriting s.streams path append else Act.openForReading s.streams path)
    match result with
    | .ok id => return .ok id
    | .error e => return .error (openComplaint s writing path e)

/-- Makes a redirection; answers what is wrong. -/
def redirect (r : Runner) : Redirect → Eval (Option Bytes)
  | .mk stream kind w => do
    let put (opened : Except Bytes Nat) : Eval (Option Bytes) := do
      match opened with
      | .ok id =>
        setStream stream id
        return none
      | .error e => return some e
    let putBoth (append : Bool) : Eval (Option Bytes) := do
      match ← openFile r w true append false with
      | .ok id =>
        setStream 1 id
        setStream 2 id
        return none
      | .error e => return some e
    match kind with
    | .input => put (← openFile r w false false false)
    | .output => put (← openFile r w true false false)
    | .overwrite => put (← openFile r w true false true)
    | .append => put (← openFile r w true true false)
    | .readWrite => put (← openFile r w true true false)
    | .both => putBoth false
    | .bothAppend => putBoth true
    | .hereText n =>
      let s ← get
      let body := ((s.texts.find? fun t => t.number = n).map (·.body)).getD []
      let text ← Expand.text r body
      put (.ok (← Eval.act (Act.addChannel (.source text))))
    | .hereWord =>
      let text ← Expand.text r w
      put (.ok (← Eval.act (Act.addChannel (.source (text ++ ['\n'])))))
    | .copy =>
      let text ← Expand.text r w
      let s ← get
      match text, Bytes.toNat? text with
      | ['-'], _ =>
        set { s with streams := s.streams.filter fun p => p.1 ≠ stream }
        return none
      | _, some n =>
        match s.streams.lookup n with
        | some id => put (.ok id)
        | none => return some (text ++ ": Bad file descriptor".toList)
      | _, none =>
        if s.isExtended && stream = 1 then putBoth false
        else if s.isExtended then return some (text ++ ": ambiguous redirect".toList)
        else return some "Bad fd number".toList

/-- Makes redirections up to the first that fails; complains about it. -/
def redirectAll (r : Runner) : List Redirect → Eval Bool
  | [] => return true
  | one :: rest => do
    match ← redirect r one with
    | none => redirectAll r rest
    | some complaint =>
      Eval.complain complaint
      return false

/-- The status of a command whose redirection has failed. -/
def redirectStatus : Eval Nat := do
  return if (← get).isExtended then 1 else 2

/-- Does something with redirections, which are taken back. -/
def withRedirects (r : Runner) (redirects : List Redirect) (body : Eval Unit) : Eval Unit := do
  let streams := (← get).streams
  let restore : Eval Unit := modify fun s => { s with streams := streams }
  Eval.afterwards (do
    if ← redirectAll r redirects then body else Eval.setStatus (← redirectStatus)) restore

/-! ### Assignments -/

/-- Makes an assignment. -/
def assign (r : Runner) : Assignment → Eval Unit
  | .word name index append w => do
    let text ← Expand.value r w
    let s ← get
    let current := (s.parameter? name).bind (·.value)
    let isNumber := ((s.parameter? name).map (·.integer)).getD false
    let number (t : Bytes) : Eval Bytes := do
      if isNumber then return Bytes.ofInt (← Expand.arithmetic Expand.arithmeticLimit t) else return t
    match index, current with
    | .item e, some (.table items) =>
      let key ← Expand.text r e
      let before := if append then (items.lookup key).getD [] else []
      Eval.assign name (.table (Value.putEntry key (before ++ text) items))
    | .item e, _ =>
      let i ← Expand.number r e
      let before := if append then Expand.element s name (some i) else []
      Expand.setElement name (some i) (before ++ text)
    | _, _ =>
      let before := if append then (current.bind Value.asText).getD [] else []
      if append && isNumber then
        Eval.assignText name (← number (before ++ ['+'] ++ text))
      else Eval.assignText name (← number (before ++ text))
  | .list name append values => do
    let s ← get
    match (s.parameter? name).bind (·.value) with
    | some (.table items) =>
      let mut items := if append then items else []
      for (index, w) in values do
        if let .item e := index then
          let key ← Expand.text r e
          items := Value.putEntry key (← Expand.value r w) items
      Eval.assign name (.table items)
    | current =>
      let mut items : List (Nat × Bytes) :=
        match append, current with
        | true, some (.list items) => items
        | true, some (.text t) => [(0, t)]
        | _, _ => []
      let mut next := (items.getLast?.map fun p => p.1 + 1).getD 0
      for (index, w) in values do
        match index with
        | .item e =>
          let i := (← Expand.number r e).toNat
          items := Value.putItem i (← Expand.value r w) items
          next := i + 1
        | _ =>
          for t in ← Expand.fields r [w] do
            items := Value.putItem next t items
            next := next + 1
      Eval.assign name (.list items)

/-- The name that an assignment is for. -/
def assignedName : Assignment → Bytes
  | .word name _ _ _ | .list name _ _ => name

/-- Makes assignments for the time of something. -/
def withAssignments (r : Runner) (assignments : List Assignment) (body : Eval Unit) : Eval Unit := do
  let s ← get
  let saved := assignments.map fun a => (assignedName a, s.parameter? (assignedName a))
  for a in assignments do
    assign r a
    Eval.exportName (assignedName a)
  Eval.afterwards body (modify fun s => saved.foldr (fun p s => s.put p.1 p.2) s)

/-! ### Traces -/

/-- A word as the extended shell shows it. -/
def shownWord (w : Bytes) : Bytes :=
  let plain (c : Char) : Bool := c.isAlphanum || "_-./:=@%+,".toList.contains c
  if !w.isEmpty && w.all plain then w
  else ['\''] ++ (w.flatMap fun c => if c = '\'' then "'\\''".toList else [c]) ++ ['\'']

/-- Shows words, if commands are to be shown. -/
def trace (words : List Bytes) : Eval Unit := do
  let s ← get
  if s.has 'x' && !words.isEmpty then
    let mark := (s.text? "PS4".toList).getD "+ ".toList
    let shown := if s.isExtended then words.map shownWord else words
    Eval.note (mark ++ Bytes.join [' '] shown)

/-- An assignment as it is shown. -/
def shownAssignment (s : Session) (a : Assignment) : Bytes :=
  assignedName a ++ ['='] ++ (s.text? (assignedName a)).getD []

/-! ### Simple commands -/

/-- Does what is to be done at the signals that have come. -/
def respond (r : Runner) : Eval Unit := do
  let s ← get
  set { s with signals := [] }
  for name in s.signals do
    match (← get).traps.lookup name with
    | some action =>
      let status := (← get).status
      r.script action
      Eval.setStatus status
    | none => pure ()

/-- Ends the shell if the option says so and the last command has failed. -/
def checkStatus : Eval Unit := do
  let s ← get
  if s.has 'e' && !s.guarded && s.status ≠ 0 then throw (.leave s.status)

/-- Calls a function. -/
def call (r : Runner) (body : Command) (args : List Bytes) : Eval Unit := do
  let s ← get
  set { s with arguments := args, scopes := [] :: s.scopes, loops := 0, isTail := false }
  let result ← Eval.attempt (r.run body)
  Eval.restoreScope
  modify fun t => { t with arguments := s.arguments, loops := s.loops }
  match result with
  | .ok () => return
  | .error (.leaveFunction n) => Eval.setStatus n
  | .error j => throw j

/-- What is said about a program that cannot be started. -/
def startComplaint (s : Session) (name : Bytes) (e : FileError) : Bytes × Nat :=
  if e = .notFound || e = .notDirectory then
    let reason := if !s.isExtended then "not found".toList
      else if name.contains '/' || (s.text? "PATH".toList).isNone then e.reason
      else "command not found".toList
    (name ++ ": ".toList ++ reason, 127)
  else (name ++ ": ".toList ++ e.reason, 126)

/-- The shell that runs a file that is no program. -/
def readerFor (s : Session) : Bytes :=
  (if s.isExtended then "/bin/bash" else "/bin/sh").toList

/-- Starts a program; what cannot be started is complained about. -/
def launch (r : Runner) (name : Bytes) (args : List Bytes) : Eval ExitStatus := do
  Eval.checkStopped
  let s ← get
  let job : Job := ⟨name, args, s.environment, s.streams⟩
  let result ← Eval.act (r.programs.launch s.searchPath name job)
  let result ←
    match result with
    | .error .notProgram => do
      -- a file that is no program is read as a script
      let path := (← Eval.act (Programs.find? s.searchPath name)).getD name
      Eval.act (r.programs.start (readerFor s) { job with name := readerFor s, args := path :: args })
    | result => pure result
  Eval.checkStopped
  match result with
  | .ok status => return status
  | .error e =>
    let isDirectory := (← Eval.act (Act.kind? name)) = some .directory
    let (complaint, status) := startComplaint s name
      (if s.isExtended && isDirectory && name.contains '/' then .isDirectory else e)
    Eval.complain complaint
    return .code status

/-- Runs a program as a command. -/
def external (r : Runner) (bare : Bool) (name : Bytes) (args : List Bytes) : Eval Unit := do
  if name = "sleep".toList then Eval.runBackground r
  let status ← launch r name args
  let s ← get
  match status with
  | .signal n =>
    if s.isExtended && s.isTail && bare then throw (.killed n) else Eval.took status
  | _ => Eval.took status

/-- Reads in a file of commands. -/
def source (r : Runner) (args : List Bytes) : Eval Nat := do
  let s ← get
  match args with
  | [] => Builtin.misused s.dialect 2 "filename argument required".toList
  | name :: words =>
    let dirs := (Bytes.splitOn ':' s.searchPath).map fun dir => Programs.pathIn dir name
    let found ←
      if name.contains '/' then pure (some name)
      else do
        let isFile (path : Bytes) : Act Bool := do
          match ← Act.kind? path with
          | some (.file _ _) => return true
          | _ => return false
        Eval.act ((dirs ++ (if s.isExtended then [name] else [])).findM? isFile)
    match found with
    | none =>
      if s.isExtended then Eval.fail 1 (name ++ ": No such file or directory".toList)
      else Eval.fault (name ++ ": not found".toList)
    | some path =>
      match ← Eval.act (Act.readFile s.streams path) with
      | .error e =>
        if s.isExtended then
          Eval.note (s.name ++ ": line ".toList ++ Bytes.ofNat s.line ++ ": ".toList ++ path ++ ": ".toList ++
            e.reason)
          return 1
        else
          let reason := if e = .notFound then "No such file".toList else e.reason
          Eval.fault ("cannot open ".toList ++ path ++ ": ".toList ++ reason)
      | .ok text =>
        let arguments := if words.isEmpty || !s.isExtended then s.arguments else words
        set { s with
          command := if s.isExtended then s.command else some path
          files := s.files + 1, arguments := arguments, isTail := false, status := 0 }
        let result ← Eval.attempt (r.script text)
        modify fun t => { t with
          command := s.command, files := s.files
          arguments := if words.isEmpty || !s.isExtended then t.arguments else s.arguments }
        match result with
        | .ok () => return (← get).status
        | .error (.leaveFunction n) => return n
        | .error j => throw j

/-- Becomes another program. -/
def become (r : Runner) (args : List Bytes) : Eval Nat := do
  let s ← get
  let (given, args) ← if s.isExtended then Builtin.options "cla:" args else
    pure ([], if args.head? = some ['-', '-'] then args.drop 1 else args)
  match args with
  | [] => return 0
  | name :: rest =>
    let name' := (given.lookup 'a').getD name
    let job : Job := ⟨name', rest, s.environment, s.streams⟩
    let result ← Eval.act (r.programs.launch s.searchPath name job)
    let result ←
      match result with
      | .error .notProgram =>
        let path := (← Eval.act (Programs.find? s.searchPath name)).getD name
        Eval.act (r.programs.start (readerFor s) { job with name := readerFor s, args := path :: rest })
      | result => pure result
    Eval.checkStopped
    match result with
    | .ok status =>
      -- nothing of the shell is left
      modify fun s => { s with traps := [], backgrounds := [] }
      match status with
      | .code n => throw (.leave n)
      | .signal n => throw (.killed n)
    | .error e =>
      let missing := e = .notFound || e = .notDirectory
      let reason := if !missing then e.reason
        else if s.isExtended && name.contains '/' then e.reason else "not found".toList
      Eval.complain (name ++ ": ".toList ++ reason)
      throw (.leave (if missing then 127 else 126))

/-- What runs a command. -/
inductive Runs where
  | function (body : Command)
  | builtin (special : Bool)
  | program

/-- What runs the command with a name; functions may be passed over. -/
def findCommand (s : Session) (functions : Bool) (name : Bytes) : Runs :=
  let builtin := Builtin.isBuiltin s.dialect name
  let special := builtin && Builtin.isSpecial name && !s.isExtended
  match special && functions, functions, s.functions.lookup name with
  | false, true, some body => .function body
  | _, _, _ => if builtin then .builtin (special && functions) else .program

/-- Runs a command of the shell itself. -/
def builtin (r : Runner) (name : Bytes) (args : List Bytes) : Eval Nat := do
  let s ← get
  modify fun s => { s with command := some name }
  let body : Eval Nat := do
    match String.ofList name with
    | "eval" =>
      Eval.setStatus 0
      modify fun s => { s with isTail := false }
      r.script (Bytes.join [' '] args)
      return (← get).status
    | "." | "source" => source r args
    | "exec" => become r args
    | name =>
      match Builtin.plain? r (Builtin.isBuiltin s.dialect) name with
      | some f => f args
      | none => return 0
  Eval.afterwards body (modify fun t => { t with command := s.command })

/-- Passes over the words in front of a command that say how it is looked up: whether
    functions are passed over, what is only asked about it, and the command. -/
def commandWords (dialect : Dialect) : (fuel : Nat) → Bool → List Bytes →
    Bool × Option Bool × List Bytes
  | 0, plain, words => (plain, none, words)
  | fuel + 1, plain, words =>
    match words.map String.ofList, words with
    | "command" :: "-v" :: _, _ => (true, some true, words.drop 2)
    | "command" :: "-V" :: _, _ => (true, some false, words.drop 2)
    | "command" :: "-p" :: _, _ => commandWords dialect fuel true (words.take 1 ++ words.drop 2)
    | "command" :: "--" :: _, _ => commandWords dialect fuel true (words.drop 2)
    | ["command"], _ => (true, none, [])
    | "command" :: _, _ => commandWords dialect fuel true (words.drop 1)
    | "builtin" :: _, _ =>
      if dialect = .extended then commandWords dialect fuel true (words.drop 1) else (plain, none, words)
    | _, _ => (plain, none, words)

/-- The fields of the words of a command. The values that are given to a declaring
    command are not split. -/
def commandFields (r : Runner) (words : List Word) : Eval (List Bytes) := do
  let dialect := (← get).dialect
  match words with
  | first :: rest =>
    let declares := (plainText? first).any fun n =>
      ((if dialect = .plain then ["export", "readonly", "local"] else declaringNames).map
        String.toList).contains n
    if declares then
      let mut found := #[(plainText? first).getD []]
      for w in rest do
        match assignment? dialect w with
        | some (.word name .none false value) =>
          found := found.push (name ++ ['='] ++ (← Expand.value r value))
        | _ => found := found ++ (← Expand.fields r [w]).toArray
      return found.toList
    else Expand.fields r words
  | [] => return []

/-- Runs a simple command. -/
def simple (r : Runner) (line : Nat) (assignments : List Assignment) (words : List Word)
    (redirects : List Redirect) : Eval Unit := do
  modify fun s => { s with line := line, inserted := none }
  let args ← commandFields r words
  let s ← get
  let (plain, asks, command) := commandWords s.dialect (args.length + 1) false args
  let isList (a : Assignment) : Bool := a matches .list _ _ _
  match asks, command with
  | some brief, names =>
    withRedirects r redirects do
      trace args
      Eval.setStatus (← Builtin.type (Builtin.isBuiltin s.dialect) brief names)
  | none, [] =>
    let streams := s.streams
    let ok ← redirectAll r redirects
    modify fun s => { s with streams := streams }
    if !ok then Eval.setStatus (← redirectStatus)
    else
      for a in assignments do
        assign r a
        trace [shownAssignment (← get) a]
      Eval.setStatus ((← get).inserted.getD 0)
  | none, name :: rest =>
    let tail := s.isTail
    match findCommand s (!plain) name with
    | .function body =>
      withRedirects r redirects (withAssignments r assignments do
        trace (assignments.map (shownAssignment (← get)) ++ args)
        call r body rest)
    | .builtin true =>
      let streams := s.streams
      let ok ← redirectAll r redirects
      let restore : Eval Unit := modify fun s => { s with streams := streams }
      if !ok then
        restore
        throw (.leave 2)
      for a in assignments do assign r a
      trace (assignments.map (shownAssignment (← get)) ++ args)
      let keeps := name = "exec".toList && rest.isEmpty
      let status ← Eval.afterwards (builtin r name rest) (if keeps then pure () else restore)
      Eval.setStatus status
    | .builtin false =>
      let run : Eval Unit := do
        let status ← tryCatch (builtin r name rest) fun
          | .failed n => return n
          | j => throw j
        Eval.setStatus status
      let declares := declaringNames.contains (String.ofList name)
      let (later, now) := assignments.partition fun a => isList a && declares
      let keeps := name = "exec".toList && rest.isEmpty
      let body : Eval Unit :=
        if now.isEmpty then do
          trace args
          run
        else withAssignments r now do
          trace (now.map (shownAssignment (← get)) ++ args)
          run
      if keeps then
        if ← redirectAll r redirects then body else Eval.setStatus (← redirectStatus)
      else withRedirects r redirects body
      for a in later do assign r a
    | .program =>
      withRedirects r redirects (withAssignments r assignments do
        trace (assignments.map (shownAssignment (← get)) ++ args)
        modify fun s => { s with isTail := tail }
        external r redirects.isEmpty name rest)
  Eval.checkStopped
  Eval.notice
  respond r

/-! ### Compound commands -/

/-- Runs a command whose status is looked at. -/
def guarded (body : Eval Unit) : Eval Unit := do
  let before := (← get).guarded
  modify fun s => { s with guarded := true }
  Eval.afterwards body (modify fun s => { s with guarded := before })

/-- Runs something after which there is more to do. -/
def notLast (body : Eval Unit) : Eval Unit := do
  let before := (← get).isTail
  modify fun s => { s with isTail := false }
  body
  modify fun s => { s with isTail := before }

/-- A sequence as a list. -/
def inOrder : Command → List Command
  | .sequence first second => inOrder first ++ [second]
  | c => [c]

/-- Runs commands one after the other. -/
def runInOrder (r : Runner) : List Command → Eval Unit
  | [] => return
  | [c] => r.run c
  | c :: rest => do
    notLast (r.run c)
    runInOrder r rest

/-- Runs the stages of a pipeline, each reading what the one before it has written. -/
def stages (r : Runner) (input : Option Nat) (failed : Nat) : List Command → Eval Unit
  | [] => return
  | [c] => do
    let s ← get
    let streams := match input with
      | some id => (0, id) :: s.streams.filter fun p => p.1 ≠ 0
      | none => s.streams
    let ended ← Eval.inSubshell r streams (r.run c)
    Eval.checkStopped
    Eval.took ended
    if s.has 'P' && ended.asCode = 0 then Eval.setStatus failed
  | c :: rest => do
    let s ← get
    let id ← Eval.act (Act.addChannel (.sink []))
    let streams := match input with
      | some id => (0, id) :: s.streams.filter fun p => p.1 ≠ 0
      | none => s.streams
    let ended ← Eval.inSubshell r ((1, id) :: streams.filter fun p => p.1 ≠ 1) (r.run c)
    -- a stage that goes on for ever ends when nothing reads what it writes
    Eval.act (modify fun w => { w with halt := if w.halt = .endless then .running else w.halt })
    Eval.checkStopped
    let _ ← Eval.act (Act.turnAround id)
    stages r (some id) (if ended.asCode = 0 then failed else ended.asCode) rest

/-- Does one round of a loop; answers whether the loop goes on. -/
def round (body : Eval Bool) : Eval Bool :=
  tryCatch body fun
    | .leaveLoops n => do
      Eval.setStatus 0
      if n ≤ 1 then return false else throw (.leaveLoops (n - 1))
    | .nextRound n => do
      Eval.setStatus 0
      if n ≤ 1 then return true else throw (.nextRound (n - 1))
    | j => throw j

/-- How many rounds a loop does before it is taken to go on for ever. -/
def roundLimit : Nat := 100000

/-- Repeats rounds, each starting with the status that the one before it leaves. -/
def rounds (body : Nat → Eval Bool) : (fuel : Nat) → (status : Nat) → Eval Unit
  | 0, _ => do
    Eval.act Act.stopEndless
    Eval.checkStopped
  | fuel + 1, status => do
    Eval.checkStopped
    if ← round (body status) then rounds body fuel (← get).status

/-- Does something inside a loop. -/
def inLoop (body : Eval Unit) : Eval Unit := do
  let s ← get
  set { s with loops := s.loops + 1, isTail := false }
  Eval.afterwards body (modify fun t => { t with loops := s.loops })

/-- Runs a loop with a condition. -/
def conditional (r : Runner) (untilTrue : Bool) (test body : Command) : Eval Unit :=
  inLoop (rounds (fun status => do
    guarded (r.run test)
    if ((← get).status = 0) = untilTrue then
      Eval.setStatus status
      return false
    else
      Eval.setStatus 0
      r.run body
      return true) roundLimit 0)

/-- Runs a loop over words. -/
def forWords (r : Runner) (line : Nat) (name : Bytes) (body : Command) : List Bytes → Eval Unit
  | [] => return
  | word :: rest => do
    Eval.checkStopped
    modify fun s => { s with line := line }
    Eval.assignText name word
    if ← round (do r.run body; return true) then forWords r line name body rest

/-- Runs a loop over numbers. -/
def forNumbers (r : Runner) (first test next : Word) (body : Command) : Eval Unit := do
  let number (w : Word) (default : Int) : Eval Int :=
    if w.isEmpty then return default else do
      let text ← Expand.text r w
      if (Bytes.trim text).isEmpty then return default
      else Expand.arithmetic Expand.arithmeticLimit text
  let _ ← number first 0
  Eval.setStatus 0
  inLoop (rounds (fun status => do
    if (← number test 1) = 0 then
      Eval.setStatus status
      return false
    else
      let go ← round (do r.run body; return true)
      if go then
        let _ ← number next 0
        return true
      else return false) roundLimit 0)

/-- Whether a text fits one of some patterns. -/
def fitsOne (r : Runner) (text : Bytes) : List Word → Eval Bool
  | [] => return false
  | w :: rest => do
    if Pattern.Glob.fits (← Expand.pattern r w) text then return true else fitsOne r text rest

/-- Runs the first clause whose pattern fits, and those that it goes on to. -/
def clauses (r : Runner) (text : Bytes) (entered : Bool) : List Clause → Eval Unit
  | [] => return
  | .mk patterns body goesOn :: rest => do
    if ← (if entered then return true else fitsOne r text patterns) then
      r.run body
      if goesOn then clauses r text true rest
    else clauses r text false rest

/-- A text that stands for itself in a regular expression. -/
def quotedExpression (text : Bytes) : Bytes :=
  text.flatMap fun c => if ".[]*^$+?()\x7b\x7d|\\".toList.contains c then ['\\', c] else [c]

/-- Whether a condition of the extended shell holds. -/
def holds (r : Runner) : Condition → Eval Bool
  | .word w => do return !(← Expand.text r w).isEmpty
  | .single operator w => do
    let text ← Expand.text r w
    match operator with
    | ['-', 'v'] => return ((← get).text? text).isSome
    | ['-', 'o'] => return false
    | ['-', c] =>
      match ← Eval.act (Test.unary .extendedShell c text).run with
      | .ok b => return b
      | .error _ => return false
    | _ => return false
  | .compare operator left right => do
    let text ← Expand.text r left
    match operator with
    | .fits => return Pattern.Glob.fits (← Expand.pattern r right) text
    | .fitsNot => return !Pattern.Glob.fits (← Expand.pattern r right) text
    | .less => return Bytes.before text (← Expand.text r right)
    | .greater => return Bytes.before (← Expand.text r right) text
    | .matches =>
      let ms ← Expand.marks r {} right
      let field := Expand.marked (← get) ms
      let written := field.flatMap fun p => if p.2 then quotedExpression [p.1] else [p.1]
      match Pattern.RegexText.read? { extended := true } written with
      | .error _ =>
        Eval.setStatus 2
        return false
      | .ok e =>
        let subject := text.toArray
        match Pattern.Regex.find? e subject 0 with
        | some f =>
          let count := (f.groups.map (·.1)).foldl max 0
          let items := (List.range (count + 1)).map fun k => (k, f.groupText subject k)
          Eval.assign "BASH_REMATCH".toList (.list items)
          return true
        | none =>
          Eval.assign "BASH_REMATCH".toList (.list [])
          return false
    | .named operator =>
      let isNumber := ["-eq", "-ne", "-lt", "-le", "-gt", "-ge"].contains (String.ofList operator)
      let right ← Expand.text r right
      let number (t : Bytes) : Eval Bytes := do
        return Bytes.ofInt (← Expand.arithmetic Expand.arithmeticLimit t)
      let (left, right) ← if isNumber then do pure (← number text, ← number right) else pure (text, right)
      match ← Eval.act (Test.binary .extendedShell operator left right).run with
      | .ok b => return b
      | .error _ => return false
  | .not c => do return !(← holds r c)
  | .both a b => do if ← holds r a then holds r b else return false
  | .either a b => do if ← holds r a then return true else holds r b

/-- Puts a command into the background. -/
def background (c : Command) : Eval Unit := do
  let process ← Eval.act Act.newProcess
  let id ← Eval.act (Act.addChannel .nothing)
  modify fun s => { s with
    backgrounds := s.backgrounds ++
      [⟨process, c, s.vars, s.arguments, (0, id) :: s.streams.filter fun p => p.1 ≠ 0⟩]
    lastBackground := some process
    status := 0 }

/-- Runs a command, the runner for what is inside it being given. -/
def step (r : Runner) : Command → Eval Unit
  | .nothing => return
  | .simple line assignments words redirects => do
    simple r line assignments words redirects
    checkStatus
  | .pipeline cs => do
    modify fun s => { s with isTail := false }
    stages r none 0 cs
    Eval.notice
    respond r
    checkStatus
  | .negated c => do
    guarded (notLast (r.run c))
    Eval.setStatus (if (← get).status = 0 then 1 else 0)
  | .andThen a b => do
    guarded (notLast (r.run a))
    if (← get).status = 0 then r.run b
  | .orElse a b => do
    guarded (notLast (r.run a))
    if (← get).status ≠ 0 then r.run b
  | .sequence a b => runInOrder r (inOrder (.sequence a b))
  | .background _ c => background c
  | .redirected line c redirects => do
    modify fun s => { s with line := line, isTail := false }
    withRedirects r redirects (r.run c)
  | .subshell line c redirects => do
    modify fun s => { s with line := line }
    let s ← get
    let ended ← Eval.inSubshell r s.streams (do
      if ← redirectAll r redirects then r.run c else throw (.leave (← redirectStatus)))
    Eval.checkStopped
    Eval.took ended
    Eval.notice
    respond r
    checkStatus
  | .ifThen test body otherwise => do
    modify fun s => { s with isTail := false }
    guarded (r.run test)
    if (← get).status = 0 then r.run body
    else
      Eval.setStatus 0
      r.run otherwise
  | .loop untilTrue test body => conditional r untilTrue test body
  | .forEach line name words body => do
    modify fun s => { s with line := line }
    let values ← match words with
      | some ws => Expand.fields r ws
      | none => do pure (← get).arguments
    Eval.setStatus 0
    inLoop (forWords r line name body values)
  | .forNumbers line first test next body => do
    modify fun s => { s with line := line }
    forNumbers r first test next body
  | .case line word cs => do
    modify fun s => { s with line := line }
    let text ← Expand.text r word
    Eval.setStatus 0
    clauses r text false cs
  | .function _ name body => modify fun s => { s with
      functions := (name, body) :: s.functions.filter fun f => f.1 ≠ name, status := 0 }
  | .condition line c => do
    modify fun s => { s with line := line }
    Eval.setStatus 1
    let b ← holds r c
    let status := (← get).status
    Eval.setStatus (if b then 0 else if status = 2 then 2 else 1)
    checkStatus
  | .expression line e => do
    modify fun s => { s with line := line }
    let status ← tryCatch (do
      let text ← Expand.text r e
      return if (← Expand.arithmetic Expand.arithmeticLimit text) = 0 then 1 else 0) fun
      | .failed n => return n
      | j => throw j
    Eval.setStatus status
    checkStatus

/-! ### Scripts -/

/-- Complains about a script that cannot be read, and gives up. -/
def scriptFault (whole : Bytes) (f : ScriptFault) : Eval Unit := do
  let s ← get
  let line := match s.dialect, f.kind with
    | .extended, .unexpected .endOfFile _ => (Bytes.lines whole).length + 1
    | _, _ => f.line
  for text in f.lines s.dialect whole do
    match s.dialect with
    | .plain =>
      modify fun s => { s with line := line }
      Eval.complain text
    | .extended =>
      Eval.note (s.name ++ ": ".toList ++ s.label ++ "line ".toList ++ Bytes.ofNat line ++ ": ".toList ++ text)
  throw (.failed 2)

/-- Runs what is left of a script, one list of commands after the other. -/
def runSource (r : Runner) (whole : Bytes) (isWhole : Bool) : (fuel : Nat) → Source → Eval Unit
  | 0, _ => return
  | fuel + 1, source => do
    Eval.checkStopped
    let s ← get
    let source := { source with aliases := s.aliases, nextText := s.nextText, texts := [] }
    match readNext.run.run source with
    | (.error f, _) => scriptFault whole f
    | (.ok none, _) => return
    | (.ok (some c), source) =>
      modify fun s => { s with
        texts := source.texts ++ s.texts, nextText := source.nextText
        isTail := isWhole && source.rest.all Bytes.isSpace }
      if !(← get).has 'n' then r.run c
      runSource r whole isWhole fuel source

/-- Runs a script; `isWhole` says whether it is all that the shell does. -/
def runScript (r : Runner) (isWhole : Bool) (text : Bytes) : Eval Unit := do
  let s ← get
  runSource r text isWhole (text.length + 2) { rest := text, dialect := s.dialect }

/-- The runner for commands that are at most `depth` deep inside each other; deeper ones
    end the shell, as there is no room for them. -/
def runner (ps : Programs) : (depth : Nat) → Runner
  | 0 => { run := fun _ => throw (.killed 11), script := fun _ => throw (.killed 11), programs := ps }
  | depth + 1 =>
    { run := fun c s => step (runner ps depth) c s
      script := fun text s => runScript (runner ps depth) false text s
      programs := ps }

/-- How deep commands may be inside each other. -/
def depthLimit : Nat := 1000

end Lifelines.Shell.Evaluate
