import Lifelines.Process.Job

/-!
# Options of utilities

A utility says which letters are options and which of them take a value, and
which long names stand for which letters. Options may stand after operands,
except for utilities that start another program with the words after them; two
dashes end the options.

* `OptionShape`, `readOptions`: what is allowed, and what is given;
* `Work.withOptions`: a utility that begins with reading its options.
-/

namespace Lifelines.Utility

/-- Whether an option takes a value. -/
inductive Taking where
  | nothing
  | value
  /-- A value may follow right after it. -/
  | maybe
  deriving DecidableEq

/-- The options of a utility. -/
structure OptionShape where
  /-- The letters. -/
  letters : List (Char × Taking)
  /-- The long names, each with its letter. -/
  names : List (String × Char) := []
  /-- Whether the first operand ends the options. -/
  ordered : Bool := false
  /-- The status of a utility that is not used as it should be. -/
  failure : Nat := 1

/-- The letters written as in a usage line: a colon after a letter that takes a
    value. -/
def letters (usage : String) : List (Char × Taking) :=
  go usage.toList
where
  /-- Reads letters with their colons. -/
  go : List Char → List (Char × Taking)
    | c :: ':' :: ':' :: rest => (c, .maybe) :: go rest
    | c :: ':' :: rest => (c, .value) :: go rest
    | c :: rest => (c, .nothing) :: go rest
    | [] => []

/-- What is wrong with some options. -/
inductive OptionFault where
  | unknownLetter (c : Char)
  | unknownName (word : Bytes)
  | missingValue (c : Char)
  | missingNameValue (name : String)
  | unneededValue (name : String)

/-- The words about a fault. -/
def OptionFault.message : OptionFault → Bytes
  | unknownLetter c => "invalid option -- '".toList ++ [c, '\'']
  | unknownName word => "unrecognized option '".toList ++ word ++ ['\'']
  | missingValue c => "option requires an argument -- '".toList ++ [c, '\'']
  | missingNameValue name =>
    "option '--".toList ++ name.toList ++ "' requires an argument".toList
  | unneededValue name =>
    "option '--".toList ++ name.toList ++ "' doesn't allow an argument".toList

/-- What is given: the options with their values, and the operands. -/
structure Given where
  options : List (Char × Bytes) := []
  operands : List Bytes := []

namespace Given

/-- Whether an option is given. -/
def has (g : Given) (c : Char) : Bool :=
  g.options.any fun o => o.1 = c

/-- The value that is given last for an option. -/
def value? (g : Given) (c : Char) : Option Bytes :=
  g.options.reverse.lookup c

/-- The values that are given for an option. -/
def values (g : Given) (c : Char) : List Bytes :=
  (g.options.filter fun o => o.1 = c).map (·.2)

/-- The option among some letters that is given last. -/
def lastOf (g : Given) (cs : String) : Option Char :=
  (g.options.reverse.find? fun o => cs.toList.contains o.1).map (·.1)

/-- Adds an option. -/
def add (g : Given) (c : Char) (value : Bytes) : Given :=
  { g with options := g.options ++ [(c, value)] }

end Given

/-- Reads the letters of a word. A letter that takes a value takes the rest of the
    word, or else the next word; this one is said to be missing by giving the
    letter. -/
def readLetters (shape : OptionShape) (g : Given) : Bytes → Except OptionFault (Given × Option Char)
  | [] => .ok (g, none)
  | c :: rest =>
    match shape.letters.lookup c with
    | none => .error (.unknownLetter c)
    | some .nothing => readLetters shape (g.add c []) rest
    | some .maybe => .ok (g.add c rest, none)
    | some .value => if rest.isEmpty then .ok (g, some c) else .ok (g.add c rest, none)

/-- The long name that a word starts, if it is the only one or given in full. -/
def findName? (shape : OptionShape) (word : Bytes) : Option (String × Char) :=
  match shape.names.find? fun n => n.1.toList = word with
  | some n => some n
  | none =>
    let started := shape.names.filter fun n => word.isPrefixOf n.1.toList
    match started with
    | n :: others => if others.all fun m => m.2 = n.2 then some n else none
    | [] => none

/-- Reads a long option, the dashes taken off. -/
def readName (shape : OptionShape) (g : Given) (word : Bytes) :
    Except OptionFault (Given × Option (String × Char)) :=
  let name := word.takeWhile (· ≠ '=')
  let value : Option Bytes :=
    match word.dropWhile (· ≠ '=') with
    | [] => none
    | _ :: value => some value
  match findName? shape name with
  | none => .error (.unknownName ("--".toList ++ word))
  | some (full, c) =>
    match shape.letters.lookup c, value with
    | some .value, some value => .ok (g.add c value, none)
    | some .value, none => .ok (g, some (full, c))
    | some .maybe, value => .ok (g.add c (value.getD []), none)
    | _, some _ => .error (.unneededValue full)
    | _, none => .ok (g.add c [], none)

/-- Reads words. -/
def readOptionsFrom (shape : OptionShape) (g : Given) : List Bytes → Except OptionFault Given
  | [] => .ok g
  | word :: rest =>
    match word with
    | ['-', '-'] => .ok { g with operands := g.operands ++ rest }
    | '-' :: '-' :: name =>
      match readName shape g name, rest with
      | .error e, _ => .error e
      | .ok (g, none), rest => readOptionsFrom shape g rest
      | .ok (g, some (_, c)), value :: rest => readOptionsFrom shape (g.add c value) rest
      | .ok (_, some (full, _)), [] => .error (.missingNameValue full)
    | '-' :: c :: cs =>
      match readLetters shape g (c :: cs), rest with
      | .error e, _ => .error e
      | .ok (g, none), rest => readOptionsFrom shape g rest
      | .ok (g, some c), value :: rest => readOptionsFrom shape (g.add c value) rest
      | .ok (_, some c), [] => .error (.missingValue c)
    | _ =>
      if shape.ordered then .ok { g with operands := g.operands ++ word :: rest }
      else readOptionsFrom shape { g with operands := g.operands ++ [word] } rest

/-- Reads the options of a utility. -/
def readOptions (shape : OptionShape) (args : List Bytes) : Except OptionFault Given :=
  readOptionsFrom shape {} args

/-- Points to the help. -/
def suggestHelp (status : Nat) : Work Nat := do
  Work.note ("Try '".toList ++ (← read).name ++ " --help' for more information.".toList)
  return status

/-- Complains about a use that is not as it should be. -/
def misuse (status : Nat) (text : Bytes) : Work Nat := do
  Work.complain text
  suggestHelp status

/-- Complains that there is no operand, or none after one. -/
def missingOperand (args : List Bytes) : Work Nat := do
  match args.getLast? with
  | none => misuse 1 "missing operand".toList
  | some last => misuse 1 ("missing operand after '".toList ++ last ++ ['\''])

/-- Complains about an operand too many. -/
def extraOperand (word : Bytes) : Work Nat :=
  misuse 1 ("extra operand '".toList ++ word ++ ['\''])

/-- A utility that begins with reading its options. -/
def withOptions (shape : OptionShape) (use : Given → Work Nat) : Work Nat := do
  match readOptions shape (← read).args with
  | .ok g => use g
  | .error e => misuse shape.failure e.message

/-- The texts of some files, or of the input if there are none; a file that is not
    accessible is complained about, and makes the status one. -/
def gather (complaint : Bytes → FileError → Bytes) (paths : List Bytes) :
    Work (List (Bytes × Bytes) × Nat) := do
  let paths := if paths.isEmpty then [['-']] else paths
  let mut texts := #[]
  let mut status := 0
  for path in paths do
    match ← Work.contents path with
    | .ok text => texts := texts.push (path, text)
    | .error e =>
      Work.complain (complaint path e)
      status := 1
  return (texts.toList, status)

/-- The usual words about a file that is not accessible. -/
def plainComplaint (path : Bytes) (e : FileError) : Bytes :=
  path ++ ": ".toList ++ e.reason

/-- A path in quotes. -/
def quoted (path : Bytes) : Bytes :=
  ['\''] ++ path ++ ['\'']

/-- The words about a file that is not accessible, with what was tried. -/
def failedTo (action : String) (path : Bytes) (e : FileError) : Bytes :=
  action.toList ++ [' '] ++ quoted path ++ ": ".toList ++ e.reason

end Lifelines.Utility
