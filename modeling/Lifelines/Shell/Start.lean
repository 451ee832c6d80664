import Lifelines.Shell.Evaluate

/-!
# The shell as a program

The shell is started with options, and with a script, the path of one, or
neither; then the script is its input. What is left of its words are the
arguments of the script.

* `Shell.program`: what the shell does when it is started.
-/

namespace Lifelines.Shell

/-- What a shell is started with. -/
structure Start where
  options : List Char := []
  settings : List Bytes := []
  /-- Whether the first word is a script. -/
  takesScript : Bool := false
  words : List Bytes := []

/-- Why a shell cannot be started. -/
structure StartFault where
  text : Bytes
  status : Nat := 2

namespace Start

/-- The options that a shell may be started with. -/
def allowed (dialect : Dialect) : List Char :=
  match dialect with
  | .plain => Builtin.optionNames.map (·.2)
  | .extended => Builtin.extendedOptionNames.map (·.2) ++ "rDt".toList

/-- What is said about an option that there is none of. -/
def illegal (dialect : Dialect) (name sign : Bytes) (c : Char) : StartFault :=
  match dialect with
  | .plain => ⟨name ++ ": 0: Illegal option ".toList ++ sign ++ [c], 2⟩
  | .extended => ⟨name ++ ": ".toList ++ sign ++ [c] ++ ": invalid option".toList, 2⟩

/-- Turns an option on or off. -/
def turn (st : Start) (on : Bool) (c : Char) : Start :=
  let others := st.options.filter (· ≠ c)
  { st with options := if on then c :: others else others }

/-- Reads the letters of a word; says whether a name is to follow. -/
def readLetters (dialect : Dialect) (name : Bytes) (sign : Char) :
    Bytes → Start → Except StartFault (Start × Bool)
  | [], st => .ok (st, false)
  | c :: rest, st =>
    if c = 'c' && sign = '-' then readLetters dialect name sign rest { st with takesScript := true }
    else if c = 'l' then readLetters dialect name sign rest st
    else if c = 'o' then (readLetters dialect name sign rest st).map fun p => (p.1, true)
    else if (allowed dialect).contains c then
      readLetters dialect name sign rest (st.turn (sign = '-') c)
    else .error (illegal dialect name [sign] c)

/-- The long options of the extended shell. -/
def longOptions : List String :=
  ["--norc", "--noprofile", "--posix", "--login", "--noediting", "--restricted", "--verbose"]

/-- Reads words. -/
def readWords (dialect : Dialect) (name : Bytes) (st : Start) :
    List Bytes → Except StartFault Start
  | [] => .ok st
  | word :: rest =>
    match word with
    | ['-'] | ['-', '-'] => .ok { st with words := rest }
    | sign :: cs =>
      if (sign = '-' || sign = '+') && !cs.isEmpty then
        if dialect = .extended && (longOptions.map String.toList).contains word then
          readWords dialect name st rest
        else if dialect = .extended && "--".toList.isPrefixOf word then
          .error ⟨name ++ ": ".toList ++ word ++ ": invalid option".toList, 2⟩
        else if word = "-O".toList && dialect = .extended then
          match rest with
          | setting :: rest =>
            readWords dialect name { st with settings := setting :: st.settings } rest
          | [] => .ok st
        else
          match readLetters dialect name sign cs st with
          | .error e => .error e
          | .ok (st, false) => readWords dialect name st rest
          | .ok (st, true) =>
            match rest with
            | [] => .ok st
            | option :: rest =>
              let names := if dialect = .plain then Builtin.optionNames else Builtin.extendedOptionNames
              match names.lookup (String.ofList option) with
              | some c => readWords dialect name (st.turn (sign = '-') c) rest
              | none =>
                .error ⟨name ++ (if dialect = .plain then ": 0: Illegal option -o " else ": ").toList ++
                  option ++ (if dialect = .plain then "" else ": invalid option name").toList, 2⟩
      else .ok { st with words := word :: rest }
    | [] => .ok { st with words := word :: rest }

end Start

/-- The script that a shell runs, its name and its arguments. -/
structure Task where
  script : Bytes
  name : Bytes
  arguments : List Bytes := []
  /-- Whether the script has been given as a word. -/
  isWord : Bool := false

/-- What is said about a script that cannot be opened. -/
def scriptComplaint (dialect : Dialect) (name path : Bytes) (e : FileError) : StartFault :=
  match dialect with
  | .plain =>
    let reason := if e = .notFound || e = .notDirectory then "No such file".toList else e.reason
    ⟨name ++ ": 0: cannot open ".toList ++ path ++ ": ".toList ++ reason, 2⟩
  | .extended =>
    if e = .isDirectory then ⟨path ++ ": ".toList ++ path ++ ": ".toList ++ e.reason, 126⟩
    else ⟨name ++ ": ".toList ++ path ++ ": ".toList ++ e.reason, 127⟩

/-- What a shell is to run. -/
def findTask (dialect : Dialect) (st : Start) : Work (Except StartFault Task) := do
  let job ← read
  match st.takesScript, st.words with
  | true, [] =>
    return .error ⟨job.name ++ (if dialect = .plain then ": 0: -c requires an argument"
      else ": -c: option requires an argument").toList, 2⟩
  | true, [script] => return .ok ⟨script, job.name, [], true⟩
  | true, script :: name :: arguments => return .ok ⟨script, name, arguments, true⟩
  | false, [] => return .ok ⟨← Work.input, job.name, [], false⟩
  | false, path :: arguments =>
    if st.options.contains 's' then return .ok ⟨← Work.input, job.name, st.words, false⟩
    match ← Act.readFile job.streams path with
    | .ok script => return .ok ⟨script, path, arguments, false⟩
    | .error e =>
      if e = .isDirectory && dialect = .plain then return .ok ⟨[], path, arguments, false⟩
      else return .error (scriptComplaint dialect job.name path e)

/-- The search path of a shell that is not given any. -/
def firstSearchPath : String :=
  "/usr/local/sbin:/usr/local/bin:/usr/sbin:/usr/bin:/sbin:/bin"

/-- The parameters that a shell starts with: those of the environment, except for a few
    that it sets itself. -/
def firstParameters (dialect : Dialect) (environment : List (Bytes × Bytes)) (here : Location) :
    List (Bytes × Variable) :=
  let exported (text : Bytes) : Variable := { value := some (.text text), exported := true }
  let kept (name : Bytes) : Bool :=
    isName name && !((["IFS", "OPTIND", "PWD"] ++ if dialect = .plain then [] else ["OLDPWD", "SHLVL"]).map
      String.toList).contains name
  let inherited := environment.filterMap fun (name, text) =>
    if kept name then some (name, exported text) else none
  let own (name text : String) : List (Bytes × Variable) :=
    if (inherited.lookup name.toList).isSome then []
    else [(name.toList, { value := some (.text text.toList) })]
  let depth := ((environment.lookup "SHLVL".toList).bind Bytes.toNat?).getD 0
  let extended : List (Bytes × Variable) :=
    if dialect = .plain then [] else
      own "BASH_VERSION" "5.2.21(1)-release" ++ own "BASH" "/bin/bash" ++ own "OSTYPE" "linux-gnu" ++
      own "HOSTTYPE" "x86_64" ++ own "MACHTYPE" "x86_64-pc-linux-gnu" ++ own "EUID" "0" ++
      own "UID" "0" ++
      [("SHLVL".toList, exported (Bytes.ofNat (depth + 1))), ("OLDPWD".toList, { exported := true }),
        ("BASH_VERSINFO".toList, { value := some (.list ((List.range 3).zip
          ["5".toList, "2".toList, "21".toList])) })]
  inherited ++ own "IFS" " \t\n" ++ own "OPTIND" "1" ++ own "PATH" firstSearchPath ++
    (if dialect = .plain then own "PS1" "# " ++ own "PS2" "> " else []) ++ own "PS4" "+ " ++
    own "PPID" "4710" ++ [("PWD".toList, exported (Act.pathOf here))] ++ extended

/-- What the shell does when it is started. -/
def program (ps : Programs) (dialect : Dialect) (job : Job) : Act ExitStatus := do
  let complain (f : StartFault) : Act ExitStatus := do
    (Work.note f.text).run job
    return .code f.status
  let process ← Act.newProcess
  let base : Start := { options := if dialect = .plain then [] else ['h', 'B'] }
  match Start.readWords dialect job.name base job.args with
  | .error f => complain f
  | .ok st =>
    match ← (findTask dialect st).run job with
    | .error f => complain f
    | .ok task =>
      let here := (← get).files.here
      let options := if st.words.isEmpty && dialect = .plain then 's' :: st.options else st.options
      let options := if st.takesScript && dialect = .extended then 'c' :: options else options
      let session : Session := {
        dialect := dialect, name := task.name
        label := if task.isWord then "-c: ".toList else []
        arguments := task.arguments
        vars := firstParameters dialect job.environment here
        options := options, settings := st.settings, streams := job.streams, process := process }
      let r := Evaluate.runner ps Evaluate.depthLimit
      let body : Eval Unit :=
        Evaluate.runScript r (dialect = .extended && task.isWord) task.script
      let (result, _) ← (Eval.conclude r body).run.run session
      match result with
      | .ok status => return status
      | .error (.killed n) => return .signal n
      | .error _ => return .code 2

end Lifelines.Shell
