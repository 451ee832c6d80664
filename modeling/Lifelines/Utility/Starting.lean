import Lifelines.Process.Program
import Lifelines.Utility.Surroundings

/-!
# Utilities that start programs

The words after the options of such a utility are the name of a program and its
arguments. The utility ends as the program does, unless it has something to say
about that.

* `env`: another environment;
* `timeout`: a limit of time;
* `nice`, `nohup`, `setsid`, `stdbuf`: nothing that shows;
* `xargs`: arguments from the input.
-/

namespace Lifelines.Utility

/-- The status for a program that cannot be started. -/
def notStartedStatus (e : FileError) : Nat :=
  match e with
  | .notFound | .notDirectory => 127
  | _ => 126

/-- A utility that ends as a program does. -/
abbrev Starting := Programs → Work ExitStatus

/-- Complains about a program that cannot be started. -/
def notStarted (action : String) (name : Bytes) (e : FileError) : Work ExitStatus := do
  Work.complain (action.toList ++ name ++ ": ".toList ++ e.reason)
  return .code (notStartedStatus e)

/-- A utility that begins with reading its options. -/
def startingWith (shape : OptionShape) (use : Given → Work ExitStatus) : Work ExitStatus := do
  match readOptions { shape with ordered := true, failure := 125 } (← read).args with
  | .ok g => use g
  | .error e => return .code (← misuse 125 e.message)

/-- Starts the program that the operands name, with nothing changed. -/
def startOperands (ps : Programs) (action : String) (quotes : Bool) (words : List Bytes) : Work ExitStatus := do
  match words with
  | [] => return .code (← misuse 125 "missing operand".toList)
  | name :: args =>
    match ← ps.runWith name args id with
    | .ok status => return status
    | .error e => notStarted action (if quotes then quoted name else name) e

/-! ### Environments -/

/-- Sets a variable of an environment. -/
def setVariable (environment : List (Bytes × Bytes)) (name value : Bytes) : List (Bytes × Bytes) :=
  if (environment.lookup name).isSome then
    environment.map fun v => if v.1 = name then (name, value) else v
  else environment ++ [(name, value)]

/-- The character that an escape stands for. -/
def escapeValue (c : Char) : Char :=
  match c with
  | 'n' => '\n'
  | 't' => '\t'
  | 'r' => '\r'
  | 'f' => '\x0c'
  | 'v' => '\x0b'
  | c => c

/-- Splits a text into words as a shell does, with quotes, escapes and variables. -/
def splitWords (environment : List (Bytes × Bytes)) (text : Bytes) : List Bytes :=
  go (2 * text.length + 2) none none text
where
  /-- Reads on in a word, if there is one, and in quotes, if there are any. -/
  go : (fuel : Nat) → (word : Option Bytes) → (quote : Option Char) → Bytes → List Bytes
    | 0, _, _, _ => []
    | _, word, _, [] => (word.map List.reverse).toList
    | fuel + 1, word, quote, c :: rest =>
      let before := (word.map List.reverse).toList
      let add (text : Bytes) (rest : Bytes) : List Bytes :=
        go fuel (some (text.reverse ++ word.getD [])) quote rest
      if quote = some c then go fuel (some (word.getD [])) none rest
      else if quote.isNone && (c = '\'' || c = '"') then go fuel (some (word.getD [])) (some c) rest
      else if quote.isNone && Bytes.isSpace c then before ++ go fuel none none rest
      else if quote.isNone && word.isNone && c = '#' then []
      else
        match c, rest with
        | '\\', d :: after =>
          if quote = some '\'' then
            if d = '\'' || d = '\\' then add [d] after else add [c] rest
          else if d = 'c' then before
          else if d = '_' && quote.isNone then before ++ go fuel none none after
          else add [if d = '_' then ' ' else escapeValue d] after
        | '$', '{' :: after =>
          if quote = some '\'' then add [c] rest
          else
            let name := after.takeWhile (· ≠ '}')
            add ((environment.lookup name).getD []) (after.drop (name.length + 1))
        | c, _ => add [c] rest

/-- Puts the words of a text to be split in place of the option that gives it. -/
def splitOption (environment : List (Bytes × Bytes)) : (fuel : Nat) → List Bytes → List Bytes
  | 0, args => args
  | _, [] => []
  | fuel + 1, word :: rest =>
    match word with
    | '-' :: 'S' :: text =>
      if text.isEmpty then
        match rest with
        | text :: rest => splitOption environment fuel (splitWords environment text ++ rest)
        | [] => [word]
      else splitOption environment fuel (splitWords environment text ++ rest)
    | '-' :: 'v' :: 'S' :: text => splitOption environment fuel (('-' :: 'S' :: text) :: rest)
    | '-' :: 'i' :: 'S' :: text => ['-', 'i'] :: splitOption environment fuel (('-' :: 'S' :: text) :: rest)
    | '-' :: _ :: _ =>
      match Bytes.dropStart? "--split-string=".toList word with
      | some text => splitOption environment fuel (splitWords environment text ++ rest)
      | none => if word = ['-', '-'] then word :: rest else word :: splitOption environment fuel rest
    | _ => if word.contains '=' then word :: splitOption environment fuel rest else word :: rest

/-- Makes a directory the working directory; answers what is wrong with it. -/
def enter (directory : Bytes) : Work (Option FileError) := do
  let files ← Work.files
  match files.lookup directory.toText, files.locate directory.toText with
  | .ok .directory, .ok l =>
    modifyThe World fun w => { w with files := { w.files with here := l } }
    return none
  | .ok _, _ => return some .notDirectory
  | .error e, _ => return some e

/-- Starts a program with another environment, or prints it. -/
def env : Starting := fun ps => do
  let names := [("ignore-environment", 'i'), ("null", '0'), ("unset", 'u'), ("chdir", 'C'),
    ("debug", 'v'), ("split-string", 'S')]
  let job ← read
  let args := splitOption job.environment (job.args.length + 64) job.args
  withReader (fun job => { job with args := args }) do
    startingWith { letters := letters "i0u:C:vS:", names := names } fun g => do
      let (bare, words) : Bool × List Bytes :=
        match g.operands with
        | ['-'] :: rest => (true, rest)
        | words => (false, words)
      let explain (text : Bytes) : Work Unit := do
        if g.has 'v' then Work.note text
      let removed := g.values 'u'
      match removed.find? fun name => name.isEmpty || name.contains '=' with
      | some name =>
        return .code (← Work.fail 125 ("cannot unset ".toList ++ quoted name ++ ": Invalid argument".toList))
      | none =>
        if g.has 'i' || bare then explain "cleaning environ".toList
        let start := if g.has 'i' || bare then [] else job.environment
        for name in removed do explain ("unset:    ".toList ++ name)
        let start := removed.foldl (fun e name => e.filter fun v => v.1 ≠ name) start
        let settings := words.takeWhile fun w => w.contains '='
        for setting in settings do explain ("setenv:   ".toList ++ setting)
        let environment := settings.foldl (fun e w =>
          setVariable e (w.takeWhile (· ≠ '=')) ((w.dropWhile (· ≠ '=')).drop 1)) start
        match words.drop settings.length, g.value? 'C' with
        | [], some _ => return .code (← misuse 125 "must specify command with --chdir (-C)".toList)
        | [], none =>
          let newline := if g.has '0' then '\x00' else '\n'
          Work.say (environment.flatMap fun (name, value) => name ++ '=' :: value ++ [newline])
          return .code 0
        | name :: args, directory? =>
          if g.has '0' then return .code (← misuse 125 "cannot specify --null (-0) with command".toList)
          if let some directory := directory? then
            explain ("chdir:    ".toList ++ quoted directory)
            if let some e := ← enter directory then
              return .code (← Work.fail 125
                ("cannot change directory to ".toList ++ quoted directory ++ ": ".toList ++ e.reason))
          explain ("executing: ".toList ++ name)
          for (arg, n) in (name :: args).zipIdx do
            explain ("   arg[".toList ++ Bytes.ofNat n ++ "]= ".toList ++ quoted arg)
          let result ←
            ps.execute (Programs.searchPathOf environment) name
              { job with name := name, args := args, environment := environment }
          match result with
          | .ok status => return status
          | .error e =>
            let status ← notStarted "" (quoted name) e
            if e = .notFound && name.contains ' ' then
              Work.complain "use -[v]S to pass options in shebang lines".toList
            return status

/-! ### Limits -/

/-- The number of a signal that a word means. -/
def signalNumber? (word : Bytes) : Option Nat :=
  let name := Bytes.toUpper word
  let name := (Bytes.dropStart? "SIG".toList name).getD name
  match Bytes.toNat? word with
  | some n => if n ≤ 64 then some n else none
  | none => (ExitStatus.signalNames.findIdx? fun s => s.toList = name).map (· + 1)

/-- Runs something that is stopped after a time; answers whether it has been stopped. Time
    zero is no limit. -/
def withDeadline {α : Type} (milliseconds : Nat) (run : Work α) : Work (α × Bool) := do
  let before ← getThe World
  let limit := before.elapsed + milliseconds
  let own := milliseconds ≠ 0 && before.deadline.all fun d => limit < d
  if !own then return (← run, false)
  modifyThe World fun w => { w with deadline := some limit }
  let result ← run
  let after ← getThe World
  let stopped := after.halt ≠ .running
  set { after with
    deadline := before.deadline
    halt := if stopped then .running else after.halt
    elapsed := if stopped then limit else after.elapsed }
  return (result, stopped)

/-- Starts a program and stops it after a time. -/
def timeout : Starting := fun ps => do
  let names := [("foreground", 'f'), ("kill-after", 'k'), ("preserve-status", 'p'), ("signal", 's'),
    ("verbose", 'v')]
  startingWith { letters := letters "fk:ps:v", names := names } fun g => do
    match (g.value? 's').map fun w => (w, signalNumber? w) with
    | some (word, none) => return .code (← misuse 125 (quoted word ++ ": invalid signal".toList))
    | signal =>
      match g.operands with
      | [] | [_] => return .code (← suggestHelp 125)
      | duration :: name :: args =>
        match readDuration? duration with
        | none => return .code (← misuse 125 ("invalid time interval ".toList ++ quoted duration))
        | some time =>
          let signal := (signal.bind (·.2)).getD 15
          let (result, stopped) ← withDeadline time (ps.runWith name args id)
          match result, stopped with
          | .error e, _ => notStarted "failed to run command " (quoted name) e
          | .ok status, false => return status
          | .ok _, true =>
            if g.has 'v' then
              Work.complain ("sending signal ".toList ++
                ((ExitStatus.signalName? signal).getD "0").toList ++ " to command ".toList ++ quoted name)
            if signal = 9 then return .signal 9
            else return .code (if g.has 'p' then 128 + signal else 124)

/-- Starts a program that others take precedence over. -/
def nice : Starting := fun ps =>
  startingWith { letters := letters "n:0123456789", names := [("adjustment", 'n')] } fun g => do
    match (g.value? 'n').filter fun w => (Bytes.toInt? w).isNone with
    | some word => return .code (← Work.fail 125 ("invalid adjustment ".toList ++ quoted word))
    | none =>
      if g.operands.isEmpty && !g.has 'n' then
        Work.sayLine ['0']
        return .code 0
      startOperands ps "" true g.operands

/-- Starts a program that goes on when its terminal is closed. -/
def nohup : Starting := fun ps =>
  startingWith { letters := [] } fun g => startOperands ps "failed to run command " true g.operands

/-- Starts a program in a session of its own. -/
def setsid : Starting := fun ps =>
  startingWith { letters := letters "cfw", names := [("wait", 'w'), ("fork", 'f'), ("ctty", 'c')] } fun g =>
    startOperands ps "failed to execute " false g.operands

/-- Starts a program with other ways to gather its output. -/
def stdbuf : Starting := fun ps =>
  startingWith { letters := letters "i:o:e:", names := [("input", 'i'), ("output", 'o'), ("error", 'e')] } fun g => do
    if !g.operands.isEmpty && g.options.isEmpty then
      return .code (← misuse 125 "you must specify a buffering mode option".toList)
    startOperands ps "failed to run command " true g.operands

/-! ### Arguments from the input -/

/-- The items of a text, blanks and newlines between them; quotes and backslashes take
    away their meaning. The numbers say in which line an item ends; a line with a blank at
    its end goes on. A quote that is not closed is a fault. -/
def inputItems (text : Bytes) : Except Char (List (Bytes × Nat)) :=
  go text.length none 0 text
where
  /-- Reads on in an item, if there is one. -/
  go : (fuel : Nat) → (item : Option Bytes) → (line : Nat) → Bytes → Except Char (List (Bytes × Nat))
    | 0, item, line, _ | _, item, line, [] =>
      .ok (item.map fun i => (i.reverse, line)).toList
    | fuel + 1, item, line, c :: rest =>
      if c = '\n' then do
        let more ← go fuel none (line + 1) rest
        return (item.map fun i => (i.reverse, line)).toList ++ more
      else if c = ' ' || c = '\t' then do
        let gap := rest.takeWhile fun d => d = ' ' || d = '\t'
        let rest := rest.drop gap.length
        let more ← go fuel none line (if rest.head? = some '\n' && item.isSome then rest.drop 1 else rest)
        return (item.map fun i => (i.reverse, line)).toList ++ more
      else if c = '\'' || c = '"' then
        let inner := rest.takeWhile fun d => d ≠ c && d ≠ '\n'
        match rest.drop inner.length with
        | d :: after =>
          if d = c then go fuel (some (inner.reverse ++ item.getD [])) line after else .error c
        | [] => .error c
      else if c = '\\' then
        match rest with
        | d :: after => go fuel (some (d :: item.getD [])) line after
        | [] => go fuel item line []
      else go fuel (some (c :: item.getD [])) line rest

/-- Puts a text in place of another, wherever it stands. -/
def replaceAll (mark value : Bytes) : (fuel : Nat) → Bytes → Bytes
  | 0, text => text
  | _, [] => []
  | fuel + 1, c :: rest =>
    match Bytes.dropStart? mark (c :: rest) with
    | some after => if mark.isEmpty then c :: rest else value ++ replaceAll mark value fuel after
    | none => c :: replaceAll mark value fuel rest

/-- Groups items by a number. -/
def groupItems (size : Nat) : (fuel : Nat) → List Bytes → List (List Bytes)
  | 0, _ => []
  | fuel + 1, items =>
    if items.isEmpty then [] else items.take size :: groupItems size fuel (items.drop size)

/-- Groups items by lines, so many at a time. -/
def groupLines (size : Nat) (items : List (Bytes × Nat)) : List (List Bytes) :=
  let lines := (items.map (·.2)).eraseDups
  (groupNumbers (lines.length + 1) lines).map fun ns =>
    (items.filter fun i => ns.contains i.2).map (·.1)
where
  /-- Groups line numbers. -/
  groupNumbers : Nat → List Nat → List (List Nat)
    | 0, _ => []
    | fuel + 1, ns =>
      if ns.isEmpty then [] else ns.take size :: groupNumbers fuel (ns.drop size)

/-- Starts a program with arguments from the input. -/
def xargs : Starting := fun ps => do
  let names := [("null", '0'), ("arg-file", 'a'), ("delimiter", 'd'), ("replace", 'I'), ("max-lines", 'L'),
    ("max-args", 'n'), ("max-procs", 'P'), ("no-run-if-empty", 'r'), ("verbose", 't'), ("max-chars", 's'),
    ("exit", 'x'), ("interactive", 'p'), ("eof", 'E')]
  let shape : OptionShape := { letters := letters "0a:d:E:e::I:i::L:l::n:P:prs:tx", names := names, ordered := true }
  match readOptions shape (← read).args with
  | .error e => return .code (← misuse 1 e.message)
  | .ok g =>
    match g.options.find? fun o => (o.1 = 'n' || o.1 = 'L' || o.1 = 's') && ((Bytes.toNat? o.2).getD 0 = 0) with
    | some (c, v) =>
      let what : Bytes :=
        if (Bytes.toNat? v).isSome then
          "value ".toList ++ v ++ " for -".toList ++ [c] ++ " option should be >= 1".toList
        else "invalid number \"".toList ++ v ++ "\" for -".toList ++ [c] ++ " option".toList
      return .code (← misuse 1 what)
    | none =>
      let source : Except FileError Bytes ←
        match g.value? 'a' with
        | some path => Work.contents path
        | none => pure (.ok (← Work.input))
      match source with
      | .error e =>
        let path := (g.value? 'a').getD []
        return .code (← Work.fail 1 ("Cannot open input file ".toList ++ quoted path ++ ": ".toList ++ e.reason))
      | .ok text =>
        let mark? : Option Bytes :=
          match g.lastOf "IinL" with
          | some 'I' => g.value? 'I'
          | some 'i' => some (match g.value? 'i' with | some [] | none => ['{', '}'] | some m => m)
          | _ => none
        let separator? : Option Char :=
          match g.lastOf "0d" with
          | some '0' => some '\x00'
          | some _ => some (delimiterOf ((g.value? 'd').getD []))
          | none => none
        let items : Except Char (List (Bytes × Nat)) :=
          match separator?, mark? with
          | some c, _ =>
            let pieces := Bytes.splitOn c text
            let pieces := if pieces.getLast? == some [] then pieces.dropLast else pieces
            .ok pieces.zipIdx
          | none, some _ =>
            .ok (((Bytes.lines text).map fun l => l.dropWhile fun c => c = ' ' || c = '\t').filter
              (fun l => !l.isEmpty)).zipIdx
          | none, none => inputItems text
        match items with
        | .error c =>
          Work.complain ("unmatched ".toList ++ (if c = '"' then "double" else "single").toList ++
            " quote; by default quotes are special to xargs unless you use the -0 option".toList)
          return .code 1
        | .ok items =>
          let end? := (g.options.filter fun o => o.1 = 'E' || o.1 = 'e').getLast?.map (·.2)
          let items := items.takeWhile fun i => separator?.isSome || end? ≠ some i.1 || i.1.isEmpty
          let words := if g.operands.isEmpty then ["echo".toList] else g.operands
          let name := words.headD []
          let fixed := words.drop 1
          let runs : List (List Bytes) :=
            match mark?, g.lastOf "nLl" with
            | some mark, _ => items.map fun (item, _) => fixed.map fun w => replaceAll mark item w.length w
            | none, some 'n' =>
              (groupItems (((g.value? 'n').bind Bytes.toNat?).getD 1) (items.length + 1) (items.map (·.1))).map
                (fixed ++ ·)
            | none, some _ =>
              let size := (((g.value? 'L').orElse fun _ => g.value? 'l').bind Bytes.toNat?).getD 1
              (groupLines size items).map (fixed ++ ·)
            | none, none => if items.isEmpty then [] else [fixed ++ items.map (·.1)]
          let runs := if runs.isEmpty && mark?.isNone && !g.has 'r' then [fixed] else runs
          runAll ps g name 0 runs
where
  /-- The character that is meant by a delimiter. -/
  delimiterOf : Bytes → Char
    | ['\\', 'n'] => '\n'
    | ['\\', 't'] => '\t'
    | ['\\', '0'] => '\x00'
    | c :: _ => c
    | [] => '\n'
  /-- Starts the program for each row of arguments. -/
  runAll (ps : Programs) (g : Given) (name : Bytes) (status : Nat) : List (List Bytes) → Work ExitStatus
    | [] => return .code status
    | args :: rest => do
      if g.has 't' then Work.note (Bytes.join [' '] (name :: args))
      let empty ← Act.addChannel .nothing
      let withEmpty (job : Job) : Job :=
        if g.has 'a' then job else
          { job with streams := (0, empty) :: job.streams.filter fun s => s.1 ≠ 0 }
      match ← ps.runWith name args withEmpty with
      | .error e => notStarted "" name e
      | .ok (.signal n) =>
        Work.complain (name ++ ": terminated by signal ".toList ++ Bytes.ofNat n)
        return .code 125
      | .ok (.code 0) => runAll ps g name status rest
      | .ok (.code 255) =>
        Work.complain (name ++ ": exited with status 255; aborting".toList)
        return .code 124
      | .ok (.code 126) => return .code 126
      | .ok (.code 127) => return .code 127
      | .ok (.code _) => runAll ps g name 123 rest

end Lifelines.Utility
