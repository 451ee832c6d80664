import Lifelines.Files.Change
import Lifelines.Settings.Basic
import Lifelines.Settings.Error
import Lifelines.Text.Blank
import Lifelines.Text.Lines

/-!
# Settings files

A settings file holds flags, separated by blanks and spread over lines as one
likes. A line that is blank, or whose first character that is not blank is `#`,
does not count. A file that is not there holds no settings.

* `Settings.ofText`, `Settings.toText`: settings read from a text and written;
* `Settings.load`, `Settings.save`, `Settings.clear`: the same for files.
-/

namespace Lifelines

namespace Settings

/-- Whether a line without blanks at its ends counts. -/
def isRelevant (line : String) : Bool :=
  match line.toList with
  | [] => false
  | c :: _ => c ≠ '#'

/-- The words of the lines that count. -/
def wordsOfText (text : String) : List String :=
  (((Text.lines text).map Text.trim).filter isRelevant).flatMap Text.words

/-- The settings that a text holds. -/
def ofText (text : String) : Settings :=
  ofTokens (wordsOfText text)

/-- The line that a settings file starts with. -/
def header : String :=
  "# sequenceplot defaults (saved with --save)"

/-- The line that fixes a setting, if there is one to fix. -/
def line (key : SettingKey) (value : Option String) : List String :=
  (value.map fun v => key.flag ++ " " ++ v).toList

/-- The lines of a settings file. -/
def textLines (s : Settings) : List String :=
  header ::
    (line .program s.program ++ line .library s.library ++
      line .format (s.format.map OutputFormat.extension) ++ line .params s.params)

/-- The text of a settings file. -/
def toText (s : Settings) : String :=
  "\n".intercalate s.textLines ++ "\n"

/-- The settings in a file. -/
def load (files : FileTree) (path : String) : Except ConfigError Settings :=
  if files.leads path then
    match files.readText path with
    | .ok text => .ok (ofText text)
    | .error e => .error (.settingsUnreadable path e)
  else .ok {}

/-- The directory that must be there before a file can be written: none for a path
    that is one name. -/
def neededDirectory? (path : String) : Option String :=
  (Path.parent? path).filter fun parent => !parent.isEmpty

/-- Writes settings to a file, making the directories that lead to it. -/
def save (path : String) (s : Settings) : ExceptT ConfigError (StateM FileTree) Unit := do
  if let some parent := neededDirectory? path then
    (Filing.makeDirectories parent).adapt (.directoryNotMade parent)
  (Filing.write path s.toText.toUTF8).adapt (.settingsNotWritten path)

/-- Removes a settings file, if it is there. -/
def clear (path : String) : ExceptT ConfigError (StateM FileTree) Unit := do
  if (← get).leads path then
    (Filing.remove path).adapt (.settingsNotRemoved path)

end Settings

end Lifelines
