import Lifelines.Shell.Command

/-!
# Reading a script

A script is read from its start, piece by piece. What is read is a stream of
tokens: words, words with a meaning of their own, signs and redirections. The
last token can be put back, and it depends on the place whether newlines count
and whether a word may have a meaning of its own.

* `Source`: a script that is being read;
* `Reading`: computations that read, and `ScriptFault`, why they fail.
-/

namespace Lifelines.Shell

/-- A token of a script. -/
inductive Token where
  | endOfFile
  | newline
  | sign (s : String)
  | word (pieces : Word) (quoted : Bool)
  /-- A word with a meaning of its own. -/
  | keyword (name : String)
  /-- A redirection of a stream, perhaps one that names its stream. -/
  | redirect (stream : Option Nat) (operator : String)

namespace Token

/-- Whether a token is a sign. -/
def isSign (t : Token) (s : String) : Bool :=
  match t with
  | sign r => r = s
  | _ => false

/-- Whether a token is a word with a meaning of its own. -/
def isKeyword (t : Token) (name : String) : Bool :=
  match t with
  | keyword n => n = name
  | _ => false

/-- What a token is called. -/
def description : Token → String
  | endOfFile => "end of file"
  | newline => "newline"
  | sign s => "\"" ++ s ++ "\""
  | word _ _ => "word"
  | keyword name => "\"" ++ name ++ "\""
  | redirect _ _ => "redirection"

end Token

/-- Why a script cannot be read on. -/
inductive FaultKind where
  | unexpected (found : Token) (expected : Option Token)
  | openQuote (mark : Char)
  | openBrace
  | openSum
  | openBackquote
  | badLoopVariable
  | badFunctionName
  | badStream

/-- A fault and its line. -/
structure ScriptFault where
  line : Nat
  kind : FaultKind

/-- A here text that is still to be read. -/
structure PendingText where
  number : Nat
  mark : Bytes
  /-- Whether the text stands for itself. -/
  quoted : Bool
  /-- Whether tabs at the start of a line are dropped. -/
  indented : Bool

/-- What the next token is looked at for. -/
structure TokenUse where
  newlines : Bool := false
  keywords : Bool := false
  aliases : Bool := false

/-- A script that is being read. -/
structure Source where
  rest : Bytes
  dialect : Dialect := .plain
  line : Nat := 1
  /-- The last token. -/
  last : Token := .newline
  /-- Whether the last token has been put back. -/
  putBack : Bool := false
  use : TokenUse := {}
  aliases : List (Bytes × Bytes) := []
  /-- The number of the next here text. -/
  nextText : Nat := 0
  pending : List PendingText := []
  /-- The here texts that have been read, the latest first. -/
  texts : List HereText := []

/-- Computations that read a script. -/
abbrev Reading := ExceptT ScriptFault (StateM Source)

namespace Reading

/-- Gives up. -/
def fail {α : Type} (kind : FaultKind) : Reading α := do
  throw ⟨(← get).line, kind⟩

/-- Complains about the last token. -/
def unexpected {α : Type} (expected : Option Token := none) : Reading α := do
  fail (.unexpected (← get).last expected)

/-- The next character, without reading it. -/
def peek : Reading (Option Char) := do
  return (← get).rest.head?

/-- Reads a character. -/
def next : Reading (Option Char) := do
  let s ← get
  match s.rest with
  | [] => return none
  | c :: rest =>
    set { s with rest := rest, line := if c = '\n' then s.line + 1 else s.line }
    return some c

/-- Reads a text, if it is there. -/
def accept (text : String) : Reading Bool := do
  let s ← get
  match Bytes.dropStart? text.toList s.rest with
  | some rest =>
    set { s with rest := rest, line := s.line + text.toList.count '\n' }
    return true
  | none => return false

/-- Reads a text that the extended language gives a meaning to, if it is there. -/
def acceptExtended (text : String) : Reading Bool := do
  match (← get).dialect with
  | .extended => accept text
  | .plain => return false

/-- Passes over ends of lines with a backslash before them. -/
def joinLines : Reading Unit := do
  let rec go : Nat → Reading Unit
    | 0 => return
    | n + 1 => do if ← accept "\\\n" then go n
  go (← get).rest.length

/-- The next character after ends of lines with a backslash before them. -/
def peekJoined : Reading (Option Char) := do
  joinLines
  peek

/-- Reads characters as long as they are of a kind. -/
def takeWhile (kind : Char → Bool) : Reading Bytes := do
  let s ← get
  let text := s.rest.takeWhile kind
  set { s with rest := s.rest.drop text.length, line := s.line + text.count '\n' }
  return text

/-- Repeats a step until it gives a result. Every step but a few reads something, so
    the steps are no more than what is left. -/
def repeatedly {α β : Type} (step : α → Reading (α ⊕ β)) (start : α) : Reading β := do
  let rec go : Nat → α → Reading β
    | 0, _ => unexpected
    | n + 1, a => do
      match ← step a with
      | .inl a => go n a
      | .inr b => return b
  go (2 * (← get).rest.length + 8) start

/-- Puts the last token back. -/
def putBack : Reading Unit :=
  modify fun s => { s with putBack := true }

/-- Says what the next token is looked at for. -/
def setUse (use : TokenUse) : Reading Unit :=
  modify fun s => { s with use := use }

/-- Reads in another text for a while. -/
def within {α : Type} (text : Bytes) (line : Nat) (read : Reading α) : Reading α := do
  let s ← get
  set { s with rest := text, line := line, putBack := false, use := {} }
  let a ← read
  modify fun t => { t with rest := s.rest, line := s.line, putBack := s.putBack, use := s.use }
  return a

end Reading

end Lifelines.Shell
