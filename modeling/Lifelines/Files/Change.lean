import Lifelines.Files.Tree

/-!
# Changing files

Requests that change a file tree. A request that fails may have changed the tree
before it failed; the only one for which this happens makes several directories
in turn.

* `Filing`: computations that change a file tree;
* `Filing.write`, `Filing.remove`, `Filing.makeDirectories`: the requests.
-/

namespace Lifelines

/-- Computations that change a file tree and may fail on the way. -/
abbrev Filing := ExceptT FileError (StateM FileTree)

namespace Filing

/-- Where a path leads. -/
def locate (path : String) : Filing Location := do
  match (← get).locate path with
  | .ok l => return l
  | .error e => throw e

/-- Writes a file, over the one that is there or anew. -/
def write (path : String) (contents : ByteArray) : Filing Unit := do
  let l ← locate path
  match (← get).node? l with
  | some .directory => throw .isDirectory
  | some (.file _ executable) => modify fun t => t.put l (.file contents executable)
  | none => modify fun t => t.put l (.file contents false)

/-- Allows a file to be run, or forbids it. -/
def setExecutable (path : String) (allowed : Bool) : Filing Unit := do
  let l ← locate path
  match (← get).node? l with
  | some (.file contents _) => modify fun t => t.put l (.file contents allowed)
  | some .directory => return
  | none => throw .notFound

/-- Allows a file to be run. -/
def makeExecutable (path : String) : Filing Unit :=
  setExecutable path true

/-- Removes a file. -/
def remove (path : String) : Filing Unit := do
  let l ← locate path
  match (← get).node? l with
  | some (.file _ _) => modify fun t => t.erase l
  | some .directory => throw .isDirectory
  | none => throw .notFound

/-- Removes an empty directory. -/
def removeDirectory (path : String) : Filing Unit := do
  let l ← locate path
  match (← get).node? l with
  | some (.file _ _) => throw .notDirectory
  | some .directory =>
    if ((← get).below l).isEmpty then modify fun t => t.erase l else throw .notEmpty
  | none => throw .notFound

/-- A path without the slashes at its end, unless it consists of slashes. -/
def withoutEndSlash (path : String) : String :=
  match path.toList.reverse.dropWhile (· = '/') with
  | [] => path
  | cs => String.ofList cs.reverse

/-- Makes a directory in one that is there. -/
def makeDirectory (path : String) : Filing Unit := do
  let l ← locate (withoutEndSlash path)
  match (← get).node? l with
  | some _ => throw .alreadyExists
  | none => modify fun t => t.put l .directory

/-- Makes a directory, unless it is there already. -/
def ensureDirectory (path : String) : Filing Unit :=
  tryCatch (makeDirectory path) fun e => do
    if (← get).leadsToDirectory path then return
    throw e

/-- Makes the first directory of a list and those that it needs, the rest of the
    list holding the directories that lead to it, the nearest first. -/
def makeFrom : List String → Filing Unit
  | [] => return
  | path :: parents =>
    tryCatch (ensureDirectory path) fun e =>
      if e = .notFound then do
        makeFrom parents
        ensureDirectory path
      else throw e

/-- A path and the paths of the directories that lead to it, the nearest first;
    the empty path leads nowhere and ends the list. -/
def ancestors (path : String) : List String :=
  go (path.length + 1) path
where
  /-- At most `fuel` paths; each is shorter than the one before. -/
  go : Nat → String → List String
    | 0, _ => []
    | fuel + 1, path =>
      if path.isEmpty then []
      else
        match Path.parent? path with
        | some parent => path :: go fuel parent
        | none => [path]

/-- Makes a directory and the directories that lead to it. -/
def makeDirectories (path : String) : Filing Unit :=
  makeFrom (ancestors path)

end Filing

end Lifelines
