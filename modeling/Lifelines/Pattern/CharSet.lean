import Lifelines.Text.Bytes

/-!
# Sets of characters

A set is written in brackets: characters, ranges of them and named classes, and
perhaps a sign that the others are meant. The classes are those of ASCII.

* `CharSet.contains`: membership;
* `CharSet.read?`: a set read from what follows the opening bracket.
-/

namespace Lifelines.Pattern

/-- A set of characters: those in some ranges, or all others. -/
structure CharSet where
  negated : Bool := false
  ranges : List (Char × Char) := []
  deriving DecidableEq

namespace CharSet

/-- Whether a character is in a set. -/
def contains (s : CharSet) (c : Char) : Bool :=
  (s.ranges.any fun r => r.1 ≤ c && c ≤ r.2) != s.negated

/-- The set of one character. -/
def single (c : Char) : CharSet where
  ranges := [(c, c)]

/-- A set that does not tell upper from lower case. -/
def foldCase (s : CharSet) : CharSet where
  negated := s.negated
  ranges :=
    let letters := (List.range 128).map Char.ofNat |>.filter Char.isAlpha
    let inside := letters.filter fun c => s.ranges.any fun r => r.1 ≤ c && c ≤ r.2
    s.ranges ++ (inside.flatMap fun c => [(c.toLower, c.toLower), (c.toUpper, c.toUpper)])

/-- Letters, digits and the underscore. -/
def wordRanges : List (Char × Char) :=
  [('a', 'z'), ('A', 'Z'), ('0', '9'), ('_', '_')]

/-- White space. -/
def spaceRanges : List (Char × Char) :=
  [(' ', ' '), ('\t', '\r')]

/-- The ranges of a named class. -/
def classRanges? (name : Bytes) : Option (List (Char × Char)) :=
  match String.ofList name with
  | "alpha" => some [('a', 'z'), ('A', 'Z')]
  | "digit" => some [('0', '9')]
  | "alnum" => some [('a', 'z'), ('A', 'Z'), ('0', '9')]
  | "upper" => some [('A', 'Z')]
  | "lower" => some [('a', 'z')]
  | "space" => some spaceRanges
  | "blank" => some [(' ', ' '), ('\t', '\t')]
  | "punct" => some [('!', '/'), (':', '@'), ('[', '\x60'), ('\x7b', '~')]
  | "print" => some [(' ', '~')]
  | "graph" => some [('!', '~')]
  | "cntrl" => some [('\x00', '\x1f'), ('\x7f', '\x7f')]
  | "xdigit" => some [('0', '9'), ('a', 'f'), ('A', 'F')]
  | _ => none

/-- The text up to a closing mark, a character and a bracket, and what follows it. -/
def readMarked (mark : Char) : Bytes → Option (Bytes × Bytes)
  | [] => none
  | c :: rest =>
    match rest with
    | ']' :: after => if c = mark then some ([], after) else
        (readMarked mark rest).map fun p => (c :: p.1, p.2)
    | _ => (readMarked mark rest).map fun p => (c :: p.1, p.2)

/-- How a backslash is read inside brackets. -/
inductive Escapes where
  /-- It stands for itself. -/
  | plain
  /-- It takes the next character as it is. -/
  | quoting
  /-- It starts the escapes of a programming language. -/
  | named
  deriving DecidableEq

/-- The character that a letter after a backslash stands for. -/
def namedEscape (c : Char) : Char :=
  match c with
  | 'n' => '\n'
  | 't' => '\t'
  | 'r' => '\r'
  | 'f' => '\x0c'
  | 'v' => '\x0b'
  | 'a' => '\x07'
  | 'b' => '\x08'
  | c => c

/-- A member of a set: a character that may start a range, or a class. -/
inductive Member where
  | char (c : Char)
  | ranges (rs : List (Char × Char))

/-- Reads a member. -/
def readMember (escapes : Escapes) : Bytes → Option (Member × Bytes)
  | '[' :: ':' :: rest =>
    match readMarked ':' rest with
    | some (name, after) => (classRanges? name).map fun rs => (.ranges rs, after)
    | none => some (.char '[', ':' :: rest)
  | '[' :: '.' :: rest =>
    match readMarked '.' rest with
    | some ([c], after) => some (.char c, after)
    | _ => none
  | '[' :: '=' :: rest =>
    match readMarked '=' rest with
    | some ([c], after) => some (.char c, after)
    | _ => none
  | '\\' :: c :: rest =>
    match escapes with
    | .plain => some (.char '\\', c :: rest)
    | .quoting => some (.char c, rest)
    | .named => some (.char (namedEscape c), rest)
  | c :: rest => some (.char c, rest)
  | [] => none

/-- Reads members up to the closing bracket; a closing bracket that comes `first` is
    a member. -/
def readMembers (escapes : Escapes) (fuel : Nat) (first : Bool) (text : Bytes) :
    Option (List (Char × Char) × Bytes) :=
  match fuel, text with
  | 0, _ | _, [] => none
  | fuel + 1, c :: rest =>
    if c = ']' && !first then some ([], rest)
    else do
      let (member, after) ← readMember escapes (c :: rest)
      match member, after with
      | .ranges rs, after => do
        let (more, after) ← readMembers escapes fuel false after
        return (rs ++ more, after)
      | .char low, '-' :: d :: after =>
        if d = ']' then do
          let (more, after) ← readMembers escapes fuel false ('-' :: d :: after)
          return ((low, low) :: more, after)
        else
          match ← readMember escapes (d :: after) with
          | (.char high, after) => do
            let (more, after) ← readMembers escapes fuel false after
            return ((low, high) :: more, after)
          | (.ranges rs, after) => do
            let (more, after) ← readMembers escapes fuel false after
            return ((low, low) :: ('-', '-') :: rs ++ more, after)
      | .char c, after => do
        let (more, after) ← readMembers escapes fuel false after
        return ((c, c) :: more, after)

/-- Reads a set from what follows the opening bracket; each of `signs` says at the
    start that the others are meant. -/
def read? (escapes : Escapes) (signs : List Char) (text : Bytes) : Option (CharSet × Bytes) :=
  let fuel := text.length + 1
  match text with
  | c :: rest =>
    if signs.contains c then
      (readMembers escapes fuel true rest).map fun p => (⟨true, p.1⟩, p.2)
    else (readMembers escapes fuel true text).map fun p => (⟨false, p.1⟩, p.2)
  | [] => none

end CharSet

end Lifelines.Pattern
