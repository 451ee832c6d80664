import Lifelines.Path

/-!
# File trees

A file tree maps *locations*, the names on the way down from the root, to
directories and files. One of the directories is the working directory, from
which relative paths start.

A path is walked component by component: each step needs a directory to stand
in, an empty component and `.` stay where they are, and `..` goes up, no further
than the root. So a path that ends in a slash leads to a directory or nowhere.

* `FileTree.locate`: where a path leads;
* `FileTree.read`, `FileTree.exists?`, ...: what is found there.
-/

namespace Lifelines

/-- The names on the way from the root. -/
abbrev Location := List String

/-- What is at a location. -/
inductive Node where
  | directory
  | file (contents : ByteArray) (executable : Bool)

instance Node.decEq : DecidableEq Node
  | directory, directory => isTrue rfl
  | directory, file .. => isFalse nofun
  | file .., directory => isFalse nofun
  | file c x, file c' x' =>
    match ByteArray.decEq c c', Bool.decEq x x' with
    | isTrue hc, isTrue hx => isTrue (by rw [hc, hx])
    | isFalse hc, _ => isFalse fun h => hc (file.inj h).1
    | _, isFalse hx => isFalse fun h => hx (file.inj h).2

/-- Why a file is not accessible. -/
inductive FileError where
  /-- There is nothing at the location, or an earlier directory is missing. -/
  | notFound
  /-- The program may not be run. -/
  | permissionDenied
  /-- Something is at the location already. -/
  | alreadyExists
  /-- A file stands where a directory is needed. -/
  | notDirectory
  /-- A directory stands where a file is needed. -/
  | isDirectory
  /-- A component or the whole path is too long. -/
  | nameTooLong
  /-- A directory that has to be empty is not. -/
  | notEmpty
  /-- The file is no program. -/
  | notProgram
  /-- The path contains a zero byte. -/
  | zeroByte
  /-- What a program is given contains a zero byte. -/
  | zeroByteGiven
  /-- The contents of the file are not UTF-8. -/
  | notText
  deriving DecidableEq, Repr

/-- The message for a file that is not accessible. -/
def FileError.message : FileError → String
  | notFound => "No such file or directory (os error 2)"
  | permissionDenied => "Permission denied (os error 13)"
  | alreadyExists => "File exists (os error 17)"
  | notDirectory => "Not a directory (os error 20)"
  | isDirectory => "Is a directory (os error 21)"
  | nameTooLong => "File name too long (os error 36)"
  | notEmpty => "Directory not empty (os error 39)"
  | notProgram => "Exec format error (os error 8)"
  | zeroByte => "file name contained an unexpected NUL byte"
  | zeroByteGiven => "nul byte found in provided data"
  | notText => "stream did not contain valid UTF-8"

/-- A file tree. The root is there even if no entry says so; of two entries for a
    location the first counts. -/
structure FileTree where
  /-- What is where. -/
  entries : List (Location × Node) := []
  /-- The working directory. -/
  here : Location := []

namespace FileTree

/-- What is at a location. -/
def node? (t : FileTree) (l : Location) : Option Node :=
  if l.isEmpty then some .directory else t.entries.lookup l

/-- The longest name of a component, in bytes. -/
def componentLimit : Nat := 255

/-- The longest path, in bytes. -/
def pathLimit : Nat := 4095

/-- Walks down the components of a path from a location. -/
def walk (t : FileTree) : Location → List String → Except FileError Location
  | l, [] => .ok l
  | l, c :: rest =>
    match t.node? l with
    | none => .error .notFound
    | some (.file _ _) => .error .notDirectory
    | some .directory =>
      if c = "" ∨ c = "." then t.walk l rest
      else if c = ".." then t.walk l.dropLast rest
      else if componentLimit < c.utf8ByteSize then .error .nameTooLong
      else t.walk (l ++ [c]) rest

/-- The location that a path leads to, which need not hold anything; all
    directories on the way are there. -/
def locate (t : FileTree) (path : String) : Except FileError Location :=
  if path.isEmpty then .error .notFound
  else if path.toList.contains '\x00' then .error .zeroByte
  else if pathLimit < path.utf8ByteSize then .error .nameTooLong
  else t.walk (if Path.isAbsolute path then [] else t.here) (Path.components path)

/-- What a path leads to. -/
def lookup (t : FileTree) (path : String) : Except FileError Node := do
  match t.node? (← t.locate path) with
  | some node => .ok node
  | none => .error .notFound

/-- Whether a path leads anywhere. -/
def leads (t : FileTree) (path : String) : Bool :=
  match t.lookup path with
  | .ok _ => true
  | .error _ => false

/-- Whether a path leads to a file. -/
def leadsToFile (t : FileTree) (path : String) : Bool :=
  match t.lookup path with
  | .ok (.file _ _) => true
  | _ => false

/-- Whether a path leads to a directory. -/
def leadsToDirectory (t : FileTree) (path : String) : Bool :=
  match t.lookup path with
  | .ok .directory => true
  | _ => false

/-- The contents of the file that a path leads to. -/
def read (t : FileTree) (path : String) : Except FileError ByteArray := do
  match ← t.lookup path with
  | .file contents _ => .ok contents
  | .directory => .error .isDirectory

/-- The contents of the file that a path leads to, which must be UTF-8. -/
def readText (t : FileTree) (path : String) : Except FileError String := do
  match String.fromUTF8? (← t.read path) with
  | some text => .ok text
  | none => .error .notText

/-- Puts something at a location. -/
def put (t : FileTree) (l : Location) (node : Node) : FileTree :=
  { t with entries := (l, node) :: t.entries.filter fun entry => entry.1 ≠ l }

/-- Takes away what is at a location. -/
def erase (t : FileTree) (l : Location) : FileTree :=
  { t with entries := t.entries.filter fun entry => entry.1 ≠ l }

/-- The names in the directory at a location, in the order of their bytes. -/
def names (t : FileTree) (l : Location) : List String :=
  let found := t.entries.filterMap fun entry =>
    if entry.1.length = l.length + 1 && l.isPrefixOf entry.1 then entry.1.getLast? else none
  found.mergeSort fun a b => !(b < a)

/-- What is below a location, each with the names on the way there from it. -/
def below (t : FileTree) (l : Location) : List (Location × Node) :=
  t.entries.filterMap fun (m, node) =>
    if l.length < m.length && l.isPrefixOf m then some (m.drop l.length, node) else none

/-- Takes away what is at a location and below it. -/
def prune (t : FileTree) (l : Location) : FileTree :=
  { t with entries := t.entries.filter fun entry => !l.isPrefixOf entry.1 }

/-- Moves what is at a location and below it to another location, over what is there. -/
def move (t : FileTree) (source target : Location) : FileTree :=
  let moved := t.entries.filterMap fun (m, node) =>
    if source.isPrefixOf m then some (target ++ m.drop source.length, node) else none
  let kept := t.entries.filter fun entry =>
    !source.isPrefixOf entry.1 && !target.isPrefixOf entry.1
  { t with entries := moved ++ kept }

/-- The contents of the file at a location. -/
def contents? (t : FileTree) (l : Location) : Option ByteArray :=
  match t.node? l with
  | some (.file contents _) => some contents
  | _ => none

end FileTree

end Lifelines
