import Lifelines.Settings.Basic

/-!
# The command line

Words that start with two dashes are long options, words that start with one
are short ones, perhaps several in a word, and other words are operands; after
the word `--` all words are operands. An option that takes a value has it after
an equals sign, a short one also right after it, or else in the next word, if
that is no option. No option may be given twice, and there is at most one
operand, the example to be drawn.

* `CommandLine.parse`: what a command line asks for.
-/

namespace Lifelines.CommandLine

/-- The options that take no value. -/
inductive Switch where
  | list
  | emit
  | save
  | clear
  deriving DecidableEq, Repr

/-- The options that take a value. -/
inductive Valued where
  | format
  | outDir
  | program
  | library
  | params
  deriving DecidableEq, Repr

/-- The options. -/
inductive OptionName where
  | help
  | version
  | switch (s : Switch)
  | valued (v : Valued)
  deriving DecidableEq, Repr

/-- The option with a long name. -/
def OptionName.ofLong? : String → Option OptionName
  | "help" => some .help
  | "version" => some .version
  | "list" => some (.switch .list)
  | "emit" => some (.switch .emit)
  | "save" => some (.switch .save)
  | "clear" => some (.switch .clear)
  | "format" => some (.valued .format)
  | "out-dir" => some (.valued .outDir)
  | "pic2plot" => some (.valued .program)
  | "library" => some (.valued .library)
  | "params" => some (.valued .params)
  | _ => none

/-- The option with a short name. -/
def OptionName.ofShort? : Char → Option OptionName
  | 'h' => some .help
  | 'V' => some .version
  | 'f' => some (.valued .format)
  | 'o' => some (.valued .outDir)
  | _ => none

/-- What has been read from a command line. -/
structure Options where
  /-- The example to be drawn. -/
  demo : Option String := none
  /-- The switches, in order. -/
  switches : List Switch := []
  /-- The options with values, in order. -/
  values : List (Valued × String) := []
  deriving DecidableEq, Repr

namespace Options

/-- Whether a switch is given. -/
def has (o : Options) (s : Switch) : Bool :=
  o.switches.contains s

/-- The value of an option, if it is given. -/
def value? (o : Options) (v : Valued) : Option String :=
  o.values.lookup v

/-- The directory for images. -/
def outDir (o : Options) : String :=
  (o.value? .outDir).getD "."

/-- The settings that are given. -/
def settings (o : Options) : Settings where
  program := o.value? .program
  library := o.value? .library
  format := (o.value? .format).bind OutputFormat.ofName?
  params := o.value? .params

end Options

/-- What a command line asks for. -/
inductive Request where
  /-- A help text. -/
  | help
  /-- The name and version of the program. -/
  | version
  /-- What the options say. -/
  | run (options : Options)
  deriving DecidableEq, Repr

/-- Why a command line is not understood. -/
inductive UsageError where
  | unknownOption (word : String)
  | repeatedOption (word : String)
  | missingValue (word : String)
  | invalidValue (word value : String)
  | unneededValue (word value : String)
  | extraOperand (word : String)
  deriving DecidableEq, Repr

/-- Whether a word can be the value of the option before it: it starts with no
    dash, or is a dash. -/
def isValueWord (word : String) : Bool :=
  match word.toList with
  | '-' :: _ :: _ => false
  | _ => true

/-- Whether an option takes a value: a format must be known, and a path must not be
    empty. -/
def isValid (v : Valued) (value : String) : Bool :=
  match v with
  | .format => (OutputFormat.ofName? value).isSome
  | _ => !value.isEmpty

namespace Options

/-- Adds an operand, given as a word. -/
def addOperand (o : Options) (word : String) : Except UsageError Options :=
  match o.demo with
  | none => .ok { o with demo := some word }
  | some _ => .error (.extraOperand word)

/-- Adds a switch, given by a word. -/
def addSwitch (o : Options) (word : String) (s : Switch) : Except UsageError Options :=
  if o.has s then .error (.repeatedOption word)
  else .ok { o with switches := o.switches ++ [s] }

/-- Adds an option with its value, given by a word. -/
def addValue (o : Options) (word : String) (v : Valued) (value : String) :
    Except UsageError Options :=
  if (o.value? v).isSome then .error (.repeatedOption word)
  else if isValid v value then .ok { o with values := o.values ++ [(v, value)] }
  else .error (.invalidValue word value)

end Options

/-- What a word means for the words after it. -/
inductive Reading where
  /-- It is read. -/
  | done (options : Options)
  /-- It needs the next word as the value of an option. -/
  | needsValue (options : Options) (v : Valued)
  /-- It settles what is asked for. -/
  | settled (request : Request)
  deriving DecidableEq, Repr

/-- Reads a long option, the dashes taken off. -/
def readLong (o : Options) (word : String) (body : List Char) : Except UsageError Reading :=
  let name := String.ofList (body.takeWhile (· ≠ '='))
  let value? :=
    match body.dropWhile (· ≠ '=') with
    | [] => none
    | _ :: value => some (String.ofList value)
  match OptionName.ofLong? name, value? with
  | none, _ => .error (.unknownOption word)
  | some (.valued v), some value => (o.addValue word v value).map .done
  | some (.valued v), none => .ok (.needsValue o v)
  | some _, some value => .error (.unneededValue word value)
  | some (.switch s), none => (o.addSwitch word s).map .done
  | some .help, none => .ok (.settled .help)
  | some .version, none => .ok (.settled .version)

/-- The value that stands right after a short option, an equals sign left out. -/
def attachedValue? : List Char → Option String
  | [] => none
  | '=' :: value => some (String.ofList value)
  | value => some (String.ofList value)

/-- Reads short options, the dash taken off: the first one settles what is asked
    for or takes what follows as its value. -/
def readShort (o : Options) (word : String) : List Char → Except UsageError Reading
  | [] => .ok (.done o)
  | c :: rest =>
    match OptionName.ofShort? c with
    | none => .error (.unknownOption word)
    | some .help => .ok (.settled .help)
    | some .version => .ok (.settled .version)
    | some (.switch s) => do readShort (← o.addSwitch word s) word rest
    | some (.valued v) =>
      match attachedValue? rest with
      | some value => (o.addValue word v value).map .done
      | none => .ok (.needsValue o v)

/-- Reads one word. -/
def readWord (o : Options) (word : String) : Except UsageError Reading :=
  match word.toList with
  | '-' :: '-' :: body => readLong o word body
  | '-' :: c :: rest => readShort o word (c :: rest)
  | _ => (o.addOperand word).map .done

/-- Adds operands. -/
def addOperands (o : Options) : List String → Except UsageError Options
  | [] => .ok o
  | word :: rest => do addOperands (← o.addOperand word) rest

/-- Reads words after what has been read already. -/
def parseFrom (o : Options) : List String → Except UsageError Request
  | [] => .ok (.run o)
  | word :: rest =>
    if word = "--" then (addOperands o rest).map .run
    else
      match readWord o word, rest with
      | .error e, _ => .error e
      | .ok (.settled request), _ => .ok request
      | .ok (.done o), rest => parseFrom o rest
      | .ok (.needsValue o v), value :: rest =>
        if isValueWord value then
          match o.addValue word v value with
          | .error e => .error e
          | .ok o => parseFrom o rest
        else .error (.missingValue word)
      | .ok (.needsValue _ _), [] => .error (.missingValue word)

/-- What a command line asks for. -/
def parse (args : List String) : Except UsageError Request :=
  parseFrom {} args

end Lifelines.CommandLine
