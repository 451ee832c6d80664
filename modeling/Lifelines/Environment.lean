import Lifelines.Files.Tree

/-!
# The environment of a run

Variables tell where the settings of a user are and where the macro library is.
A variable that is set to the empty text is set.

* `Environment.globalSettingsPath`, `localSettingsPath`: the two settings files;
* `Environment.findLibrary?`: the macro library.
-/

namespace Lifelines

/-- The variables that are set. -/
structure Environment where
  /-- Names and values; of two entries for a name the first counts. -/
  bindings : List (String × String) := []
  deriving Repr

namespace Environment

/-- The value of a variable, if it is set. -/
def get? (env : Environment) (name : String) : Option String :=
  env.bindings.lookup name

/-- Sets a variable, or unsets it. -/
def set (env : Environment) (name : String) (value : Option String) : Environment :=
  let others := env.bindings.filter fun entry => entry.1 ≠ name
  match value with
  | some v => ⟨(name, v) :: others⟩
  | none => ⟨others⟩

end Environment

/-- The settings file of the working directory. -/
def localSettingsPath : String := ".sequenceplotrc"

/-- The file name of the macro library. -/
def libraryName : String := "sequence.pic"

/-- The variable that says where the macro library is. -/
def libraryVariable : String := "SEQUENCEPLOT_LIBRARY"

/-- The directories that the macro library is usually installed in. -/
def libraryDirectories : List String :=
  ["/usr/share/umlgraph", "/usr/local/share/umlgraph", "/opt/homebrew/share/umlgraph",
    "/usr/share/sequenceplot", "/usr/local/share/sequenceplot"]

namespace Environment

/-- The settings file of the user: below the directory for configurations, else
    below the home directory, else that of the working directory. -/
def globalSettingsPath (env : Environment) : String :=
  match env.get? "XDG_CONFIG_HOME", env.get? "HOME" with
  | some dir, _ => Path.join (Path.join dir "sequenceplot") "config"
  | none, some home =>
    Path.join (Path.join (Path.join home ".config") "sequenceplot") "config"
  | none, none => localSettingsPath

/-- The places where the macro library is looked for, in order: the one asked for,
    the one named by the environment, the usual ones, the working directory. -/
def libraryCandidates (env : Environment) (explicit : Option String) : List String :=
  explicit.toList ++ (env.get? libraryVariable).toList ++
    libraryDirectories.map (Path.join · libraryName) ++ [libraryName]

/-- The first place at which the macro library is. -/
def findLibrary? (env : Environment) (files : FileTree) (explicit : Option String) :
    Option String :=
  (env.libraryCandidates explicit).find? files.leadsToFile

end Environment

end Lifelines
