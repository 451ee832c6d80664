import Lifelines.Shell.Expand
import Lifelines.Shell.Script
import Lifelines.Utility.Options
import Lifelines.Utility.Test

/-!
# The commands of the shell itself

Some commands are part of the shell: those that change its parameters, options
and traps, and some utilities. A special command that is used wrongly ends the
plain shell.

* `Builtin.ofName?`: the command with a name;
* `Builtin.isSpecial`: the special ones.
-/

namespace Lifelines.Shell.Builtin

/-- The commands that end the plain shell when they are used wrongly. -/
def isSpecial (name : Bytes) : Bool :=
  (specialNames.contains (String.ofList name))

/-- Complains about a command that is used wrongly. -/
def misused (dialect : Dialect) (status : Nat) (text : Bytes) : Eval Nat := do
  if dialect = .plain then Eval.fault text
  else Eval.fail status text

/-- Reads the letters before the arguments; gives each with its value. -/
def options (allowed : String) (args : List Bytes) : Eval (List (Char × Bytes) × List Bytes) := do
  let shape := Utility.letters allowed
  let s ← get
  let rec letters : Bytes → List (Char × Bytes) → Eval (List (Char × Bytes) × Option Char)
    | [], found => return (found, none)
    | c :: rest, found => do
      match shape.lookup c with
      | none =>
        if s.isExtended then
          Eval.complain ('-' :: c :: ": invalid option".toList)
          throw (.failed 2)
        else Eval.fault ("Illegal option -".toList ++ [c])
      | some .nothing => letters rest (found ++ [(c, [])])
      | some _ => if rest.isEmpty then return (found, some c) else return (found ++ [(c, rest)], none)
  let rec words : List Bytes → List (Char × Bytes) → Eval (List (Char × Bytes) × List Bytes)
    | ['-', '-'] :: rest, found => return (found, rest)
    | ('-' :: c :: cs) :: rest, found => do
      match ← letters (c :: cs) found, rest with
      | (found, none), rest => words rest found
      | (found, some c), value :: rest => words rest (found ++ [(c, value)])
      | (_, some c), [] =>
        if s.isExtended then
          Eval.complain ('-' :: c :: ": option requires an argument".toList)
          throw (.failed 2)
        else Eval.fault ("No arg for -".toList ++ [c] ++ " option".toList)
    | args, found => return (found, args)
  words args []

/-- The number that a word has to be. -/
def number (word : Bytes) : Eval Nat := do
  match Bytes.toNat? (Bytes.trim word) with
  | some n => return n
  | none =>
    let s ← get
    if s.isExtended then
      Eval.complain (word ++ ": numeric argument required".toList)
      throw (.failed 2)
    else Eval.fault ("Illegal number: ".toList ++ word)

/-- Prints a text to the first output. -/
def print (name : String) (text : Bytes) : Eval Nat := do
  let written ←
    match (← get).streams.lookup 1 with
    | some id => Eval.act (Act.write id text)
    | none => pure text.isEmpty
  if written then return 0
  else if (← get).isExtended then Eval.fail 1 "write error: Bad file descriptor".toList
  else Eval.fail 1 (name.toList ++ ": I/O error".toList)

/-- A text in quotes that the shell can read. -/
def quote (text : Bytes) : Bytes :=
  if text.isEmpty then ['\'', '\'']
  else go (text.length + 1) text
where
  /-- Quotes the parts of a text. -/
  go : Nat → Bytes → Bytes
    | 0, _ | _, [] => []
    | fuel + 1, text =>
      let plain := text.takeWhile (· ≠ '\'')
      let rest := text.drop plain.length
      let quotes := rest.takeWhile (· = '\'')
      (if plain.isEmpty then [] else ['\''] ++ plain ++ ['\'']) ++
        (if quotes.isEmpty then [] else ['"'] ++ quotes ++ ['"']) ++ go fuel (rest.drop quotes.length)

/-! ### Printing -/

/-- Which kind of `echo` the shell has. -/
def kindOf (s : Session) : Printf.Kind :=
  if s.isExtended then .extendedShell else .plainShell

/-- Prints its arguments. -/
def echo (args : List Bytes) : Eval Nat := do
  print "echo" (Printf.echo (kindOf (← get)) args)

/-- Prints values as a format says. -/
def printf (args : List Bytes) : Eval Nat := do
  let s ← get
  let (given, words) ← options (if s.isExtended then "v:" else "") args
  match words with
  | [] =>
    if s.isExtended then
      Eval.note "printf: usage: printf [-v var] format [arguments]".toList
      return 2
    else Eval.fault "usage: printf format [arg ...]".toList
  | format :: values =>
    let p := Printf.printf (kindOf s) format values
    let status ←
      match given.lookup 'v' with
      | some name => do
        Eval.assignText name p.text
        pure 0
      | none => print "printf" p.text
    for complaint in p.complaints do
      Eval.complain complaint
    return max p.status status

/-- Runs a utility that complains as the shell does. -/
def asUtility (w : Work Nat) (args : List Bytes) : Eval Nat := do
  let heading := (← get).heading
  Eval.work (heading.take (heading.length - 2)) args w

/-- Tests words. -/
def test (inBrackets : Bool) (args : List Bytes) : Eval Nat := do
  asUtility (Test.test (kindOf (← get)) inBrackets Work.complain) args

/-! ### Parameters -/

/-- Complains about a word that is no name. -/
def badName (word : Bytes) : Eval Nat := do
  let s ← get
  if s.isExtended then Eval.fail 1 ('\x60' :: word ++ "': not a valid identifier".toList)
  else Eval.fault (word ++ ": bad variable name".toList)

/-- The name and the value in a word. -/
def nameAndValue (word : Bytes) : Bytes × Option Bytes :=
  let name := word.takeWhile (· ≠ '=')
  match word.drop name.length with
  | _ :: value => (name, some value)
  | [] => (name, none)

/-- The elements of a value, as they stand between parentheses. -/
def declaredItems : Value → Bytes
  | .text t => WordQuotes.double t
  | .list items =>
    '(' :: Bytes.join [' '] (items.map fun (n, t) =>
      '[' :: Bytes.ofNat n ++ "]=".toList ++ WordQuotes.double t) ++ [')']
  | .table items =>
    '(' :: (items.flatMap fun (k, t) => '[' :: k ++ "]=".toList ++ WordQuotes.double t ++ [' ']) ++ [')']

/-- The command of the extended shell that declares a parameter as it is. -/
def declaration (name : Bytes) (v : Variable) : Bytes :=
  let shape : Bytes :=
    match v.value with
    | some (.list _) => ['a']
    | some (.table _) => ['A']
    | _ => []
  let marks := shape ++ (if v.integer then ['i'] else []) ++ (if v.readOnly then ['r'] else []) ++
    (if v.exported then ['x'] else [])
  "declare -".toList ++ (if marks.isEmpty then ['-'] else marks) ++ ' ' :: name ++
    ((v.value.map fun value => '=' :: declaredItems value).getD []) ++ ['\n']

/-- The parameters of a kind, in order. -/
def sortedVariables (kind : Variable → Bool) : Eval (List (Bytes × Variable)) := do
  return ((← get).vars.filter fun p => kind p.2).mergeSort fun a b => !Bytes.before b.1 a.1

/-- The parameters of a kind, as commands that set them. -/
def listing (command : String) (kind : Variable → Bool) : Eval Bytes := do
  let shown ← sortedVariables kind
  if (← get).isExtended then return shown.flatMap fun (name, v) => declaration name v
  return shown.flatMap fun (name, v) =>
    let value := (v.value.bind Value.asText).map fun t => '=' :: quote t
    command.toList ++ [' '] ++ name ++ value.getD [] ++ ['\n']

/-- Marks parameters, perhaps giving them values. -/
def mark (command : String) (kind : Variable → Bool) (mark : Variable → Variable)
    (args : List Bytes) : Eval Nat := do
  let (given, words) ← options (if (← get).isExtended then "pfnaA" else "p") args
  if words.isEmpty || given.any (·.1 = 'p') then print command (← listing command kind)
  else
    let mut status := 0
    for word in words do
      let (name, value) := nameAndValue word
      if isName name then
        if let some value := value then Eval.assignText name value
        modify fun s => s.put name (some (mark ((s.parameter? name).getD {})))
      else status ← badName name
    return status

/-- Removes parameters or functions. -/
def unset (args : List Bytes) : Eval Nat := do
  let (given, words) ← options (if (← get).isExtended then "fvn" else "fv") args
  let functions := (given.getLast?.map (·.1)) = some 'f'
  let mut status := 0
  for word in words do
    let s ← get
    if functions then
      set { s with functions := s.functions.filter fun f => f.1 ≠ word }
    else
      let name := word.takeWhile (· ≠ '[')
      if !isName name then status ← badName word
      else if ((s.parameter? name).map (·.readOnly)).getD false then
        if s.isExtended then
          status ← Eval.fail 1 (name ++ ": cannot unset: readonly variable".toList)
        else Eval.fault (name ++ ": is read only".toList)
      else if name.length < word.length then
        let key := (word.drop (name.length + 1)).dropLast
        match (s.parameter? name).bind (·.value) with
        | some (.list items) =>
          let n := (Bytes.toNat? key).getD 0
          Eval.assign name (.list (items.filter fun i => i.1 ≠ n))
        | some (.table items) => Eval.assign name (.table (items.filter fun i => i.1 ≠ key))
        | _ => pure ()
      else
        let isFunction := (s.parameter? name).isNone && s.isExtended
        set (if isFunction then { s with functions := s.functions.filter fun f => f.1 ≠ word }
          else s.put name none)
  return status

/-- Hides parameters for the rest of a function. -/
def localNames (args : List Bytes) : Eval Nat := do
  let s ← get
  if s.scopes.isEmpty then
    if s.isExtended then Eval.fail 1 "can only be used in a function".toList
    else Eval.fault "not in a function".toList
  else
    let words := if s.isExtended then args.filter fun w => w.head? ≠ some '-' else args
    for word in words do
      let (name, value) := nameAndValue word
      if isName name then
        Eval.hide name
        match value with
        | some value => Eval.assignText name value
        | none => if s.isExtended then modify fun s => s.put name (some {})
      else
        let _ ← badName name
    return 0

/-- Declares parameters of the extended shell. -/
def declare (args : List Bytes) : Eval Nat := do
  let (given, words) ← options "aAfFgilnprtux" args
  let has (c : Char) : Bool := given.any (·.1 = c)
  if words.isEmpty && !has 'f' && !has 'F' then
    return ← print "declare" (← listing "declare" fun v =>
      (!has 'x' || v.exported) && (!has 'r' || v.readOnly) && (!has 'i' || v.integer))
  let mut status := 0
  for word in words do
    let (name, value) := nameAndValue word
    let name := name.takeWhile (· ≠ '[')
    if !isName name then status ← badName word
    else if has 'p' then
      match (← get).parameter? name with
      | some v =>
        let _ ← print "declare" (declaration name v)
      | none => status ← Eval.fail 1 (name ++ ": not found".toList)
    else
      if !(← get).scopes.isEmpty && !has 'g' then
        Eval.hide name
        if value.isNone then modify fun s => s.put name (some {})
      match value, ((← get).parameter? name).bind (·.value) with
      | some value, _ =>
        let value ←
          if has 'i' then do
            pure (Bytes.ofInt (← Expand.arithmetic Expand.arithmeticLimit value))
          else pure (if has 'u' then Bytes.toUpper value else if has 'l' then Bytes.toLower value else value)
        Eval.assignText name value
      | none, none =>
        if has 'a' then Eval.assign name (.list [])
        else if has 'A' then Eval.assign name (.table [])
      | none, some _ => pure ()
      modify fun s =>
        let v := (s.parameter? name).getD {}
        s.put name (some { v with
          exported := v.exported || has 'x', readOnly := v.readOnly || has 'r'
          integer := v.integer || has 'i' })
  return status

/-- Drops arguments. -/
def shift (args : List Bytes) : Eval Nat := do
  let n ← match args with
    | [] => pure 1
    | word :: _ => number word
  let s ← get
  if s.arguments.length < n then
    if s.isExtended then return 1 else Eval.fault "can't shift that many".toList
  else
    set { s with arguments := s.arguments.drop n, letters := 0 }
    return 0

/-! ### Options -/

/-- The options with their names. -/
def optionNames : List (String × Char) :=
  [("errexit", 'e'), ("noglob", 'f'), ("ignoreeof", 'I'), ("interactive", 'i'), ("monitor", 'm'),
    ("noexec", 'n'), ("stdin", 's'), ("xtrace", 'x'), ("verbose", 'v'), ("vi", 'V'), ("emacs", 'E'),
    ("noclobber", 'C'), ("allexport", 'a'), ("notify", 'b'), ("nounset", 'u'), ("privileged", 'p'),
    ("nolog", 'N'), ("debug", 'D')]

/-- The names of the options that only the extended shell has. -/
def extendedOptionNames : List (String × Char) :=
  optionNames ++ [("pipefail", 'P'), ("posix", 'Q'), ("braceexpand", 'B'), ("hashall", 'h'),
    ("errtrace", 'T'), ("functrace", 'U'), ("physical", 'L'), ("history", 'H'), ("keyword", 'k')]

/-- Turns an option on or off. -/
def turn (on : Bool) (c : Char) : Eval Unit :=
  modify fun s =>
    let others := s.options.filter (· ≠ c)
    { s with options := if on then c :: others else others }

/-- Turns the option with a name on or off. -/
def turnNamed (on : Bool) (name : Bytes) : Eval Unit := do
  let s ← get
  let names := if s.isExtended then extendedOptionNames else optionNames
  match names.lookup (String.ofList name) with
  | some c => turn on c
  | none =>
    if s.isExtended then
      Eval.complain (name ++ ": invalid option name".toList)
      throw (.failed 2)
    else
      Eval.fault ("Illegal option ".toList ++ [if on then '-' else '+'] ++ "o ".toList ++ name)

/-- The options, as a table or as commands that set them. -/
def optionListing (asCommands : Bool) : Eval Bytes := do
  let s ← get
  let line (name : String) (c : Char) : Bytes :=
    let on := s.has c
    if asCommands then "set ".toList ++ [if on then '-' else '+'] ++ "o ".toList ++ name.toList ++ ['\n']
    else Bytes.padRight 16 name.toList ++ (if on then "on" else "off").toList ++ ['\n']
  return (if asCommands then [] else "Current option settings\n".toList) ++
    optionNames.flatMap fun o => line o.1 o.2

/-- Reads options in front of arguments and turns them on or off; gives the words after
    them, if any are to be arguments. -/
def readSettings : List Bytes → Eval (Option (List Bytes))
  | [] => return none
  | ['-', '-'] :: rest => return some rest
  | ['-'] :: rest => return if rest.isEmpty then none else some rest
  | ['-', 'o'] :: name :: rest => do
    turnNamed true name
    readSettings rest
  | ['+', 'o'] :: name :: rest => do
    turnNamed false name
    readSettings rest
  | [sign, 'o'] :: [] => do
    let _ ← print "set" (← optionListing (sign = '+'))
    return none
  | (sign :: cs) :: rest => do
    if sign = '-' || sign = '+' then
      let s ← get
      let allowed := (if s.isExtended then extendedOptionNames else optionNames).map (·.2)
      -- an option with a name may stand at the end of a word
      let (cs, named) := if cs.getLast? = some 'o' then (cs.dropLast, true) else (cs, false)
      for c in cs do
        if allowed.contains c then turn (sign = '-') c
        else if s.isExtended then
          Eval.complain (sign :: c :: ": invalid option".toList)
          throw (.failed 2)
        else Eval.fault ("Illegal option ".toList ++ [sign, c])
      if named then
        match rest with
        | name :: more =>
          turnNamed (sign = '-') name
          readSettings more
        | [] => return none
      else readSettings rest
    else return some ((sign :: cs) :: rest)
  | [] :: rest => return some ([] :: rest)

/-- Sets options and arguments, or shows the parameters. -/
def setOptions (args : List Bytes) : Eval Nat := do
  if args.isEmpty then
    let shown ← sortedVariables fun v => v.value.isSome
    let extended := (← get).isExtended
    print "set" (shown.flatMap fun (name, v) =>
      let value : Bytes :=
        match extended, v.value with
        | true, some (.text t) => WordQuotes.single t
        | true, some value => declaredItems value
        | _, _ => quote ((v.value.bind Value.asText).getD [])
      name ++ ['='] ++ value ++ ['\n'])
  else
    match ← readSettings args with
    | some words => modify fun s => { s with arguments := words, letters := 0 }
    | none => pure ()
    return 0

/-- Turns settings of the extended shell on or off. -/
def shopt (args : List Bytes) : Eval Nat := do
  let (given, words) ← options "supqo" args
  let has (c : Char) : Bool := given.any (·.1 = c)
  for word in words do
    if has 's' then modify fun s => { s with settings := word :: s.settings }
    if has 'u' then modify fun s => { s with settings := s.settings.filter (· ≠ word) }
  let s ← get
  if has 's' || has 'u' then return 0
  else return if words.all s.settings.contains then 0 else 1

/-- Reads the next option of the arguments. -/
def getopts (args : List Bytes) : Eval Nat := do
  match args with
  | shape :: name :: words =>
    let s ← get
    let words := if words.isEmpty then s.arguments else words
    let silent := shape.head? = some ':'
    let index := max 1 (((s.text? "OPTIND".toList).bind Bytes.toNat?).getD 1)
    let finish (letter : Bytes) (value : Option Bytes) (index letters status : Nat) : Eval Nat := do
      Eval.assign "OPTIND".toList (.text (Bytes.ofNat index))
      modify fun s => { s with letters := letters }
      match value with
      | some v => Eval.assignText "OPTARG".toList v
      | none => modify fun s => s.put "OPTARG".toList none
      if !isName name then badName name
      else
        Eval.assignText name letter
        return status
    let complaint (text : String) (c : Char) (after : String) : Eval Unit := do
      let head := if s.isExtended then s.name ++ ": ".toList else []
      Eval.note (head ++ text.toList ++ [c] ++ after.toList)
    match words[index - 1]? with
    | some ('-' :: c :: cs) =>
      if c = '-' && cs.isEmpty then finish ['?'] none (index + 1) 0 1
      else
        let letters := (c :: cs).drop s.letters
        match letters with
        | [] => finish ['?'] none index 0 1
        | c :: rest =>
          let known := c ≠ ':' && shape.contains c
          let takes := known && ((shape.dropWhile (· ≠ c)).drop 1).head? = some ':'
          let (nextIndex, nextLetters) :=
            if rest.isEmpty then (index + 1, 0) else (index, s.letters + 1)
          if !known then
            if silent then finish ['?'] (some [c]) nextIndex nextLetters 0
            else
              if s.isExtended then complaint "illegal option -- " c "" else complaint "Illegal option -" c ""
              finish ['?'] none nextIndex nextLetters 0
          else if takes then
            match rest, words[index]? with
            | [], some value => finish [c] (some value) (index + 2) 0 0
            | [], none =>
              if silent then finish [':'] (some [c]) (index + 1) 0 0
              else
                if s.isExtended then complaint "option requires an argument -- " c ""
                else complaint "No arg for -" c " option"
                finish ['?'] none (index + 1) 0 0
            | value, _ => finish [c] (some value) (index + 1) 0 0
          else finish [c] (if s.isExtended then none else some []) nextIndex nextLetters 0
    | _ => finish ['?'] none index 0 1
  | _ =>
    if (← get).isExtended then Eval.fail 2 "usage: getopts optstring name [arg]".toList
    else Eval.fault "Usage: getopts optstring var [arg...]".toList

/-! ### Reading -/

/-- A line of the input, each character with whether a backslash was before it, and
    whether the line has ended. -/
def readInput (id : Nat) (raw : Bool) (mark : Char) : Eval (Field × Bool) := do
  let text ← Eval.act (Act.pending id)
  let (field, ended, rest) := go raw mark (text.length + 1) text
  Eval.act (Act.skip id (text.length - rest.length))
  return (field.filter fun p => p.1 ≠ '\x00', ended)
where
  /-- Reads up to the end of the line. -/
  go (raw : Bool) (mark : Char) : Nat → Bytes → Field × Bool × Bytes
    | 0, text => ([], false, text)
    | _, [] => ([], false, [])
    | fuel + 1, c :: rest =>
      if c = mark then ([], true, rest)
      else
        match raw, c, rest with
        | false, '\\', '\n' :: rest => go raw mark fuel rest
        | false, '\\', d :: rest =>
          let (field, ended, rest) := go raw mark fuel rest
          ((d, true) :: field, ended, rest)
        | false, '\\', [] => ([], false, [])
        | _, _, _ =>
          let (field, ended, rest) := go raw mark fuel rest
          ((c, false) :: field, ended, rest)

/-- Whether a character separates fields as white space. -/
def isGap (separators : Bytes) (p : Char × Bool) : Bool :=
  !p.2 && separators.contains p.1 && (p.1 = ' ' || p.1 = '\t' || p.1 = '\n')

/-- Whether a character separates fields. -/
def isSeparator (separators : Bytes) (p : Char × Bool) : Bool :=
  !p.2 && separators.contains p.1

/-- Drops what separates two fields. -/
def dropSeparator (separators : Bytes) (field : Field) : Field :=
  match field.dropWhile (isGap separators) with
  | p :: rest =>
    if isSeparator separators p then rest.dropWhile (isGap separators) else p :: rest
  | [] => []

/-- Cuts a line into as many fields as there are names; the last one takes what is
    left, unless that is one more field and what separates it. -/
def cutFields (separators : Bytes) : (names : Nat) → Field → List Bytes
  | 0, _ => []
  | names + 1, field =>
    let field := field.dropWhile (isGap separators)
    let first := field.takeWhile fun p => !isSeparator separators p
    let rest := dropSeparator separators (field.drop first.length)
    if names = 0 then
      if rest.isEmpty then [first.map (·.1)]
      else [((field.reverse.dropWhile (isGap separators)).reverse).map (·.1)]
    else first.map (·.1) :: cutFields separators names rest

/-- All fields of a line. -/
def allFields (separators : Bytes) (field : Field) : List Bytes :=
  (Expand.split separators (field.map fun p => .glyph ⟨p.1, p.2, !p.2⟩)).map fun f => f.map (·.1)

/-- Reads a line into parameters. -/
def readLine (args : List Bytes) : Eval Nat := do
  let s ← get
  let (given, names) ← options (if s.isExtended then "ersa:d:i:n:N:p:t:u:" else "p:r") args
  let raw := given.any (·.1 = 'r')
  if names.isEmpty && !s.isExtended then Eval.fault "arg count".toList
  let stream := ((given.lookup 'u').bind Bytes.toNat?).getD 0
  let mark : Char := match given.lookup 'd' with
    | some [] => '\x00'
    | some (c :: _) => c
    | none => '\n'
  match s.streams.lookup stream with
  | none => return 1
  | some id =>
    let (field, ended) ←
      match (given.lookup 'n').bind Bytes.toNat? with
      | some n => do
        let text ← Eval.act (Act.pending id)
        let line := (text.take n).takeWhile (· ≠ mark)
        let newline := (text[line.length]?) = some mark && line.length < n
        Eval.act (Act.skip id (line.length + (if newline then 1 else 0)))
        pure (line.map fun c => (c, false), newline || line.length = n)
      | none => readInput id raw mark
    let separators := s.separators
    match given.lookup 'a' with
    | some name => do
      let items := allFields separators field
      Eval.assign name (.list ((List.range items.length).zip items))
    | none =>
      match names with
      | [] => Eval.assignText "REPLY".toList (field.map (·.1))
      | names =>
        let values := cutFields separators names.length field
        let mut i := 0
        for name in names do
          if isName name then Eval.assignText name ((values[i]?).getD [])
          else
            let _ ← badName name
            throw (.failed 1)
          i := i + 1
    return if ended then 0 else 1

/-- Reads the lines of the input into a list. -/
def readLines (args : List Bytes) : Eval Nat := do
  let (given, names) ← options "td:n:O:s:u:C:c:" args
  match (← get).streams.lookup 0 with
  | none => return 1
  | some id =>
    let text ← Eval.act (Act.readAll id)
    let lines := Bytes.fullLines text
    let lines := if given.any (·.1 = 't') then lines.map Bytes.withoutNewline else lines
    let name := (names.head?).getD "MAPFILE".toList
    Eval.assign name (.list ((List.range lines.length).zip lines))
    return 0

/-! ### Places -/

/-- Changes the working directory. -/
def cd (args : List Bytes) : Eval Nat := do
  let (_, words) ← options (if (← get).isExtended then "LPe@" else "LP") args
  let s ← get
  if s.isExtended && 1 < words.length then return ← Eval.fail 1 "too many arguments".toList
  let target? : Option Bytes :=
    match words with
    | [] => s.text? "HOME".toList
    | ['-'] :: _ => s.text? "OLDPWD".toList
    | word :: _ => some word
  match target? with
  | none =>
    if s.isExtended then Eval.fail 1 ((if words.isEmpty then "HOME" else "OLDPWD").toList ++ " not set".toList)
    else return 0
  | some target =>
    let w ← Eval.act get
    let path := if target.isEmpty then "." else target.toText
    let result : Except FileError Location :=
      match w.files.locate path with
      | .ok l =>
        match w.files.node? l with
        | some .directory => .ok l
        | some _ => .error .notDirectory
        | none => .error .notFound
      | .error e => .error e
    match result with
    | .error e =>
      if s.isExtended then Eval.fail 1 (target ++ ": ".toList ++ e.reason)
      else Eval.fault ("can't cd to ".toList ++ target)
    | .ok l =>
      let before := (s.text? "PWD".toList).getD (Act.pathOf w.files.here)
      Eval.act (modify fun w => { w with files := { w.files with here := l } })
      for (name, path) in [("OLDPWD", before), ("PWD", Act.pathOf l)] do
        Eval.assign name.toList (.text path)
        Eval.exportName name.toList
      if words.head? = some ['-'] then print "cd" (Act.pathOf l ++ ['\n']) else return 0

/-- Prints the working directory. -/
def pwd (args : List Bytes) : Eval Nat := do
  let _ ← options "LP" args
  print "pwd" (Act.pathOf (← Eval.act get).files.here ++ ['\n'])

/-! ### Signals -/

/-- The name of a signal that a word means. -/
def signalName? (dialect : Dialect) (word : Bytes) : Option Bytes :=
  match Bytes.toNat? word with
  | some 0 => some "EXIT".toList
  | some n => (ExitStatus.signalName? n).map String.toList
  | none =>
    let word := if dialect = .plain then word else
      match Bytes.dropStart? "SIG".toList (Bytes.toUpper word) with
      | some rest => rest
      | none => Bytes.toUpper word
    let known := "EXIT" :: ExitStatus.signalNames ++
      (if dialect = .plain then [] else ["ERR", "DEBUG", "RETURN"])
    if (known.map String.toList).contains word then some word else none

/-- The number of a signal. -/
def signalNumber (name : Bytes) : Nat :=
  if name = "EXIT".toList then 0
  else (ExitStatus.signalNames.idxOf (String.ofList name)) + 1

/-- Says what is done at signals. -/
def trap (args : List Bytes) : Eval Nat := do
  let (given, words) ← options (if (← get).isExtended then "lp" else "") args
  let s ← get
  if words.isEmpty || given.any (·.1 = 'p') then
    let shown := s.traps.mergeSort fun a b => signalNumber a.1 ≤ signalNumber b.1
    let signal (name : Bytes) : Bytes :=
      if s.isExtended && name ≠ "EXIT".toList then "SIG".toList ++ name else name
    print "trap" (shown.flatMap fun (name, action) =>
      "trap -- ".toList ++ quote action ++ [' '] ++ signal name ++ ['\n'])
  else
    let first := (words.head?).getD []
    let resets := words.length = 1 || (Bytes.toNat? first).isSome
    let (action?, names) : Option Bytes × List Bytes :=
      if resets then (none, words)
      else if first = ['-'] then (none, words.drop 1)
      else (some first, words.drop 1)
    let mut status := 0
    for word in names do
      match signalName? s.dialect word with
      | some name =>
        modify fun s =>
          let others := s.traps.filter fun t => t.1 ≠ name
          { s with traps := others ++ (action?.map (name, ·)).toList }
      | none =>
        if s.isExtended then Eval.complain (word ++ ": invalid signal specification".toList)
        else Eval.note ("trap: ".toList ++ word ++ ": bad trap".toList)
        status := 1
    return status

/-- Complains about the use of `kill`. -/
def killUsage : Eval Nat := do
  let s ← get
  if s.isExtended then
    Eval.note ("kill: usage: kill [-s sigspec | -n signum | -sigspec] pid | jobspec ... " ++
      "or kill -l [sigspec]").toList
    return 2
  else
    Eval.fault ("Usage: kill [-s sigspec | -signum | -sigspec] [pid | job]... or\nkill -l [exitstatus]").toList

/-- Sends a signal to processes. -/
def sendTo (signal : Nat) (words : List Bytes) : Eval Nat := do
  let s ← get
  if words.isEmpty then return ← killUsage
  let mut status := 0
  for word in words do
    match Bytes.toInt? word with
    | none =>
      if s.isExtended then
        status ← Eval.fail 1 (word ++ ": arguments must be process or job IDs".toList)
      else Eval.fault ("Illegal number: ".toList ++ word)
    | some n =>
      let process := n.toNat
      if process = s.process then
        if s.isSub then Eval.act (Act.send process signal)
        else
          match Eval.response s signal with
          | .ends => throw (.killed signal)
          | .nothing => pure ()
          | .action name => modify fun s => { s with signals := s.signals ++ [name] }
      else if s.backgrounds.any fun b => b.process = process then
        if signal ≠ 0 then
          modify fun s => { s with
            backgrounds := s.backgrounds.filter fun b => b.process ≠ process
            ended := (process, .signal signal) :: s.ended }
      else if s.isExtended then
        status ← Eval.fail 1 (['('] ++ word ++ ") - No such process".toList)
      else status ← Eval.fail 1 "No such process\n".toList
  return status

/-- Sends a signal, or lists the signals. -/
def kill (args : List Bytes) : Eval Nat := do
  let s ← get
  let invalid (word : Bytes) : Eval Nat := do
    if s.isExtended then Eval.fail 1 (word ++ ": invalid signal specification".toList)
    else Eval.fault ("invalid signal number or name: ".toList ++ word)
  let named (word : Bytes) (rest : List Bytes) : Eval Nat := do
    match signalName? s.dialect word with
    | some name => sendTo (signalNumber name) rest
    | none => invalid word
  match args with
  | [] => killUsage
  | ['-', 'l'] :: [] =>
    print "kill" (Bytes.ofLines ("0".toList :: ExitStatus.signalNames.map String.toList))
  | ['-', 'l'] :: word :: _ =>
    match Bytes.toNat? word with
    | none =>
      match s.isExtended, signalName? s.dialect word with
      | true, some name => print "kill" (Bytes.ofNat (signalNumber name) ++ ['\n'])
      | true, none => invalid word
      | false, _ => Eval.fault ("Illegal number: ".toList ++ word)
    | some n =>
      let n := if 128 < n then n - 128 else n
      match ExitStatus.signalName? n with
      | some name => print "kill" (name.toList ++ ['\n'])
      | none =>
        if s.isExtended then invalid word
        else Eval.fault ("invalid signal number or exit status: ".toList ++ word)
  | ['-', '-'] :: rest => sendTo 15 rest
  | ['-', 's'] :: word :: rest => named word rest
  | ['-', 's'] :: [] => killUsage
  | ('-' :: c :: cs) :: rest =>
    if s.isExtended && c :: cs = ['n'] then
      match rest with
      | word :: rest => named word rest
      | [] => killUsage
    else
      match signalName? s.dialect (c :: cs) with
      | some name => sendTo (signalNumber name) rest
      | none => if s.isExtended then invalid (c :: cs) else Eval.fault ("Illegal option -".toList ++ [c])
  | words => sendTo 15 words

/-- Waits for commands in the background. -/
def wait (r : Runner) (args : List Bytes) : Eval Nat := do
  let (_, words) ← options (if (← get).isExtended then "nfp:" else "") args
  Eval.runBackground r
  let mut status := 0
  for word in words do
    match (← get).ended.lookup ((Bytes.toNat? word).getD 0) with
    | some (.code n) => status := n
    | some (.signal n) =>
      if !(← get).isExtended then Eval.note (Eval.signalText n)
      status := 128 + n
    | none =>
      if (← get).isExtended then
        Eval.complain ("pid ".toList ++ word ++ " is not a child of this shell".toList)
      status := 127
  return status

/-! ### Names of commands -/

/-- Defines or shows other names for commands. -/
def alias' (args : List Bytes) : Eval Nat := do
  let s ← get
  let shown (a : Bytes × Bytes) : Bytes :=
    (if s.isExtended then "alias ".toList else []) ++ a.1 ++ ['='] ++ quote a.2 ++ ['\n']
  if args.isEmpty then
    print "alias" ((s.aliases.mergeSort fun a b => !Bytes.before b.1 a.1).flatMap shown)
  else
    let mut status := 0
    for word in args do
      match nameAndValue word with
      | (name, some value) =>
        modify fun s => { s with
          aliases := (name, value) :: s.aliases.filter fun a => a.1 ≠ name }
      | (name, none) =>
        match (← get).aliases.lookup name with
        | some value =>
          let _ ← print "alias" (shown (name, value))
        | none =>
          if s.isExtended then Eval.complain (name ++ ": not found".toList)
          else Eval.note ("alias: ".toList ++ name ++ " not found".toList)
          status := 1
    return status

/-- Removes other names for commands. -/
def unalias (args : List Bytes) : Eval Nat := do
  let (given, words) ← options "a" args
  if given.any (·.1 = 'a') then modify fun s => { s with aliases := [] }
  let mut status := 0
  for word in words do
    let s ← get
    if (s.aliases.lookup word).isSome then
      modify fun s => { s with aliases := s.aliases.filter fun a => a.1 ≠ word }
    else
      if s.isExtended then Eval.complain (word ++ ": not found".toList)
      else Eval.note ("unalias: ".toList ++ word ++ " not found".toList)
      status := 1
  return status

/-- What a command with a name is. -/
inductive Meaning where
  | keyword
  | alias (value : Bytes)
  | function
  | builtin
  | program (path : Bytes)

/-- What a command with a name is, in words or as what runs. -/
def describe (name : Bytes) (brief : Bool) (m : Meaning) : Eval Bytes := do
  let s ← get
  match brief, m with
  | true, .alias value => return "alias ".toList ++ name ++ ['='] ++ quote value
  | true, .program path => return path
  | true, _ => return name
  | false, .keyword => return name ++ " is a shell keyword".toList
  | false, .alias value =>
    return name ++ (if s.isExtended then " is aliased to \x60" else " is an alias for ").toList ++ value ++
      (if s.isExtended then ['\''] else [])
  | false, .function =>
    return name ++ (if s.isExtended then " is a function" else " is a shell function").toList
  | false, .builtin =>
    return name ++ (if isSpecial name && !s.isExtended then " is a special shell builtin"
      else " is a shell builtin").toList
  | false, .program path => return name ++ " is ".toList ++ path

/-- What a command with a name is. -/
def meaning? (isBuiltin : Bytes → Bool) (name : Bytes) : Eval (Option Meaning) := do
  let s ← get
  if (keywords s.dialect).contains (String.ofList name) then return some .keyword
  match s.aliases.lookup name with
  | some value => return some (.alias value)
  | none =>
    if (s.functions.lookup name).isSome then return some .function
    else if isBuiltin name then return some .builtin
    else return (← Eval.act (Programs.find? s.searchPath name)).map .program

/-- Says what commands with some names are. -/
def type (isBuiltin : Bytes → Bool) (brief : Bool) (args : List Bytes) : Eval Nat := do
  let s ← get
  let mut status := 0
  for name in args do
    match ← meaning? isBuiltin name with
    | some m =>
      let _ ← print "type" ((← describe name brief m) ++ ['\n'])
    | none =>
      if s.isExtended then
        if !brief then Eval.complain (name ++ ": not found".toList)
        status := 1
      else
        if !brief then
          let _ ← print "type" (name ++ ": not found\n".toList)
        status := 127
  return status

/-- Says of which kind commands with some names are. -/
def typeOf (isBuiltin : Bytes → Bool) (args : List Bytes) : Eval Nat := do
  let (given, words) ← options "tpafP" args
  if given.any (·.1 = 't') then
    let mut status := 0
    for name in words do
      match ← meaning? isBuiltin name with
      | some m =>
        let kind := match m with
          | .keyword => "keyword"
          | .alias _ => "alias"
          | .function => "function"
          | .builtin => "builtin"
          | .program _ => "file"
        let _ ← print "type" (kind.toList ++ ['\n'])
      | none => status := 1
    return status
  else type isBuiltin (given.any fun o => o.1 = 'p' || o.1 = 'P') words

/-! ### Leaving -/

/-- The status that a word asks for, or that of the last command. -/
def statusOf (args : List Bytes) : Eval Nat := do
  match args with
  | [] => return (← get).status
  | word :: _ =>
    if (← get).isExtended then
      match Bytes.toInt? (Bytes.trim word) with
      | some n => return (n % 256).toNat
      | none => number word
    else number word

/-- Ends the shell. -/
def exit (args : List Bytes) : Eval Nat := do
  if (← get).isExtended && 1 < args.length then
    Eval.complain "too many arguments".toList
    return 1
  let n ← tryCatch (statusOf args) fun
    | .failed n => throw (.leave n)
    | j => throw j
  throw (.leave n)

/-- Ends a function or a file of commands. -/
def return' (args : List Bytes) : Eval Nat := do
  let s ← get
  if s.isExtended && s.scopes.isEmpty && s.files = 0 then
    Eval.fail 2 "can only \x60return' from a function or sourced script".toList
  else throw (.leaveFunction (← statusOf args))

/-- Ends loops, or goes on with the next round of one. -/
def leaveLoops (jump : Nat → Jump) (args : List Bytes) : Eval Nat := do
  let n ← match args with
    | [] => pure 1
    | word :: _ => number word
  if n = 0 then
    let s ← get
    let _ ← misused s.dialect 1
      (if s.isExtended then "0: loop count out of range" else "Illegal number: 0").toList
  let loops := (← get).loops
  if loops = 0 then
    if (← get).isExtended then
      Eval.complain ("only meaningful in a \x60for', \x60while', or \x60until' loop".toList)
    return 0
  throw (jump (min n loops))

/-- Shows or takes the mask for new files. -/
def umask (args : List Bytes) : Eval Nat := do
  let (given, words) ← options "Sp" args
  let mask := ((← get).text? "UMASK".toList).getD "0022".toList
  match words with
  | [] => print "umask" ((if given.isEmpty then mask else "u=rwx,g=rx,o=rx".toList) ++ ['\n'])
  | _ => return 0

/-- Evaluates expressions. -/
def let' (args : List Bytes) : Eval Nat := do
  let mut last : Int := 0
  for word in args do
    last ← Expand.arithmetic Expand.arithmeticLimit word
  return if last = 0 then 1 else 0

/-- The names of the commands that the evaluator runs itself. -/
def structural : List String :=
  ["eval", "exec", ".", "source", "command", "builtin"]

/-- The names that only the extended shell knows. -/
def extendedOnly : List String :=
  ["source", "declare", "typeset", "shopt", "let", "mapfile", "readarray", "builtin", "enable",
    "disown", "help", "caller"]

/-- The command with a name; `isBuiltin` says which names are those of such commands. -/
def plain? (r : Runner) (isBuiltin : Bytes → Bool) (name : String) :
    Option (List Bytes → Eval Nat) :=
  let exporting := mark "export" (·.exported) fun v => { v with exported := true }
  let protecting := mark "readonly" (·.readOnly) fun v => { v with readOnly := true }
  match name with
  | ":" | "true" => some fun _ => return 0
  | "false" => some fun _ => return 1
  | "echo" => some echo
  | "printf" => some printf
  | "test" => some (test false)
  | "[" => some (test true)
  | "cd" | "chdir" => some cd
  | "pwd" => some pwd
  | "read" => some readLine
  | "export" => some exporting
  | "readonly" => some protecting
  | "unset" => some unset
  | "local" => some localNames
  | "shift" => some shift
  | "set" => some setOptions
  | "getopts" => some getopts
  | "trap" => some trap
  | "kill" => some kill
  | "wait" => some (wait r)
  | "alias" => some alias'
  | "unalias" => some unalias
  | "type" => some fun args => do
    if (← get).isExtended then typeOf isBuiltin args else type isBuiltin false args
  | "exit" => some exit
  | "return" => some return'
  | "break" => some (leaveLoops .leaveLoops)
  | "continue" => some (leaveLoops .nextRound)
  | "umask" => some umask
  | "ulimit" => some fun args => if args.isEmpty then print "ulimit" "unlimited\n".toList else return 0
  | "times" => some fun _ => print "times" "0m0.000000s 0m0.000000s\n0m0.000000s 0m0.000000s\n".toList
  | "hash" | "jobs" | "bg" | "fg" => some fun _ => return 0
  | "declare" | "typeset" => some declare
  | "shopt" => some shopt
  | "let" => some let'
  | "mapfile" | "readarray" => some readLines
  | "enable" | "disown" | "help" | "caller" => some fun _ => return 0
  | _ => none

/-- The names of the commands of the plain shell. -/
def names : List String :=
  [":", "true", "false", "echo", "printf", "test", "[", "cd", "chdir", "pwd", "read", "export",
    "readonly", "unset", "local", "shift", "set", "getopts", "trap", "kill", "wait", "alias",
    "unalias", "type", "exit", "return", "break", "continue", "umask", "ulimit", "times", "hash",
    "jobs", "bg", "fg"]

/-- Whether a name is that of a command of the shell itself. -/
def isBuiltin (dialect : Dialect) (name : Bytes) : Bool :=
  let name := String.ofList name
  let known := names ++ structural ++ extendedOnly
  known.contains name && (dialect = .extended && name ≠ "chdir" ||
    dialect = .plain && !extendedOnly.contains name)

end Lifelines.Shell.Builtin
