/-!
# Paths as texts

A path is kept as the text in which it was given; two texts may lead to the same
file. A path is *absolute* if it starts with a slash. Its components are the
nonempty names between the slashes; the component `.` counts only at the very
start of a relative path.

* `Path.join`: a path below another;
* `Path.parent?`: the path of the directory that holds a path;
* `Path.withExtension`: a path with an extension appended to it.
-/

namespace Lifelines.Path

/-- Whether a path starts at the root. -/
def isAbsolute (path : String) : Bool :=
  path.toList.head? == some '/'

/-- Whether a path ends in a slash. -/
def endsInSlash (path : String) : Bool :=
  path.toList.getLast? == some '/'

/-- The pieces between the slashes of a path, empty ones included. -/
def splitSlashes : List Char → List (List Char)
  | [] => [[]]
  | '/' :: rest => [] :: splitSlashes rest
  | c :: rest =>
    match splitSlashes rest with
    | [] => [[c]]
    | piece :: pieces => (c :: piece) :: pieces

/-- The components of a path, empty ones included. -/
def components (path : String) : List String :=
  (splitSlashes path.toList).map String.ofList

/-- The path `next` seen from `base`: an absolute path stands for itself, and a
    slash is put in between unless `base` is empty or ends in one. -/
def join (base next : String) : String :=
  if isAbsolute next then next
  else if base.isEmpty || endsInSlash base then base ++ next
  else base ++ "/" ++ next

/-- A path with a dot and an extension appended; dots of the path are kept. -/
def withExtension (path extension : String) : String :=
  path ++ "." ++ extension

/-- Drops components from the end that lead nowhere: empty ones and `.`, each with
    the slash before it. The characters are in reverse order. -/
def dropIdle : List Char → List Char
  | [] => []
  | '/' :: rest => dropIdle rest
  | ['.'] => []
  | '.' :: '/' :: rest => dropIdle rest
  | cs => cs

/-- Drops the last component with the slash before it. The characters are in
    reverse order. -/
def dropLast (cs : List Char) : List Char :=
  (cs.dropWhile (· ≠ '/')).drop 1

/-- The part of a path that is before its first component: the slash of an
    absolute path, or the `.` that a relative path starts with. -/
def lead : List Char → List Char
  | '/' :: _ => ['/']
  | ['.'] => ['.']
  | '.' :: '/' :: _ => ['.']
  | _ => []

/-- The path of the directory that holds a path. The root and the empty path are
    held by none. -/
def parentChars? (path : List Char) : Option (List Char) :=
  let start := lead path
  match dropIdle (path.drop start.length).reverse with
  | [] => if start = ['.'] then some [] else none
  | body => some (start ++ (dropIdle (dropLast body)).reverse)

/-- The path of the directory that holds a path. The root and the empty path are
    held by none. -/
def parent? (path : String) : Option String :=
  (parentChars? path.toList).map String.ofList

end Lifelines.Path
