import Lifelines.Format

/-!
# Settings

What a user may fix in advance: the layout tool, the macro library, the output
format and the file of parameters. Settings are written as flags, either
`--flag=value` or `--flag value`, the value being whatever comes next. Of two
settings of one flag the later counts, and all else is passed over.

* `Settings.ofTokens`: the settings among some words;
* `Settings.union`: settings laid over others.
-/

namespace Lifelines

/-- The flags that settings are written with. -/
inductive SettingKey where
  | program
  | library
  | format
  | params
  deriving DecidableEq, Repr

namespace SettingKey

/-- All flags. -/
def all : List SettingKey :=
  [program, library, format, params]

/-- The written form of a flag. -/
def flag : SettingKey → String
  | program => "--pic2plot"
  | library => "--library"
  | format => "--format"
  | params => "--params"

/-- The flag with a written form. -/
def ofFlag? (text : String) : Option SettingKey :=
  all.find? fun key => key.flag == text

end SettingKey

/-- Settings, each of which may be missing. -/
structure Settings where
  /-- The layout tool. -/
  program : Option String := none
  /-- The macro library. -/
  library : Option String := none
  /-- The output format. -/
  format : Option OutputFormat := none
  /-- The file of parameters. -/
  params : Option String := none
  deriving DecidableEq, Repr

namespace Settings

/-- The settings of `other`, and where it has none those of `base`. -/
def union (base other : Settings) : Settings where
  program := other.program <|> base.program
  library := other.library <|> base.library
  format := other.format <|> base.format
  params := other.params <|> base.params

/-- Fixes one setting; a format that is not known leaves none. -/
def fix (s : Settings) (value : String) : SettingKey → Settings
  | .program => { s with program := some value }
  | .library => { s with library := some value }
  | .format => { s with format := OutputFormat.parse? value }
  | .params => { s with params := some value }

/-- A word split at its first equals sign, if it starts with two dashes; what
    follows the sign is missing where there is none. -/
def splitWord (word : List Char) : List Char × Option (List Char) :=
  let key := word.takeWhile (· ≠ '=')
  if "--".toList.isPrefixOf key then
    match word.dropWhile (· ≠ '=') with
    | [] => (key, none)
    | _ :: value => (key, some value)
  else (word, none)

/-- The flag that a word starts, and the value if the word holds it as well. -/
def readFlag (word : String) : Option (SettingKey × Option String) :=
  let (key, value) := splitWord word.toList
  (SettingKey.ofFlag? (String.ofList key)).map fun k => (k, value.map String.ofList)

/-- Reads words one after the other; a flag at the very end that lacks its value
    fixes nothing. -/
def scan (s : Settings) : List String → Settings
  | [] => s
  | word :: rest =>
    match readFlag word, rest with
    | none, rest => scan s rest
    | some (key, some value), rest => scan (s.fix value key) rest
    | some (key, none), value :: rest => scan (s.fix value key) rest
    | some (_, none), [] => s

/-- The settings among some words. -/
def ofTokens (words : List String) : Settings :=
  scan {} words

end Settings

end Lifelines
