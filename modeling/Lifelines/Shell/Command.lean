import Lifelines.Text.Bytes

/-!
# Commands of the shell

A script is a list of commands. A command is made of words, and a word of pieces:
texts that stand for themselves and pieces that are expanded when the command is
run. A quoted piece is never split into fields and never read as a pattern.

* `Word`: words and their pieces;
* `Command`: commands;
* `HereText`: texts that are given to a command in the script itself.
-/

namespace Lifelines.Shell

/-- What a redirection of a stream does. -/
inductive RedirectKind where
  | input
  | output
  /-- Output to a file, even if files are not to be written over. -/
  | overwrite
  /-- Output to the end of a file. -/
  | append
  | readWrite
  /-- The stream becomes another one, or is closed. -/
  | copy
  /-- The stream reads a text given in the script, the one with this number. -/
  | hereText (n : Nat)
  /-- The stream reads the word. -/
  | hereWord
  /-- Both outputs go to a file. -/
  | both
  | bothAppend
  deriving DecidableEq

/-- An operator of a condition that compares two words. -/
inductive Comparison where
  | fits
  | fitsNot
  | matches
  | less
  | greater
  /-- An operator of the utility `test`. -/
  | named (operator : Bytes)
  deriving DecidableEq

mutual

/-- A piece of a word. -/
inductive Piece where
  /-- A text that stands for itself. -/
  | text (quoted : Bool) (chars : Bytes)
  /-- The value of a parameter, perhaps changed. -/
  | parameter (quoted : Bool) (name : Bytes) (index : Index) (edit : Edit)
  /-- What a command prints. -/
  | output (quoted : Bool) (command : Command)
  /-- The value of an expression. -/
  | number (quoted : Bool) (expression : List Piece)
  /-- The path of a file that holds what a command prints, or that a command reads. -/
  | channel (reads : Bool) (command : Command)
  /-- A parameter with a change that there is none of. -/
  | fault (quoted : Bool) (written : Bytes)

/-- Which elements of a parameter are meant. -/
inductive Index where
  | none
  | item (expression : List Piece)
  | all
  | joined

/-- How the value of a parameter is changed. The forms that test whether there is a
    value may take an empty one for none. -/
inductive Edit where
  | none
  | length
  /-- The names of the elements. -/
  | keys
  /-- The value of the parameter whose name is the value. -/
  | indirect
  | otherwise (orEmpty : Bool) (word : List Piece)
  | assign (orEmpty : Bool) (word : List Piece)
  | require (orEmpty : Bool) (word : List Piece)
  | instead (orEmpty : Bool) (word : List Piece)
  | cut (atEnd longest : Bool) (pattern : List Piece)
  | slice (start : List Piece) (length : Option (List Piece))
  | replace (place : Char) (pattern word : List Piece)
  | recase (upper all : Bool)

/-- A value that is given to a parameter. -/
inductive Assignment where
  | word (name : Bytes) (index : Index) (append : Bool) (value : List Piece)
  | list (name : Bytes) (append : Bool) (values : List (Index × List Piece))

/-- A redirection. -/
inductive Redirect where
  | mk (stream : Nat) (kind : RedirectKind) (target : List Piece)

/-- A condition of the extended shell. -/
inductive Condition where
  | word (w : List Piece)
  | single (operator : Bytes) (w : List Piece)
  | compare (operator : Comparison) (left right : List Piece)
  | not (c : Condition)
  | both (first second : Condition)
  | either (first second : Condition)

/-- Commands. Those that can be complained about know their line. -/
inductive Command where
  | nothing
  | simple (line : Nat) (assignments : List Assignment) (words : List (List Piece))
      (redirects : List Redirect)
  | pipeline (stages : List Command)
  | negated (body : Command)
  | andThen (first second : Command)
  | orElse (first second : Command)
  | sequence (first second : Command)
  | background (line : Nat) (body : Command)
  | redirected (line : Nat) (body : Command) (redirects : List Redirect)
  | subshell (line : Nat) (body : Command) (redirects : List Redirect)
  | ifThen (test body : Command) (otherwise : Command)
  | loop (untilTrue : Bool) (test body : Command)
  | forEach (line : Nat) (name : Bytes) (words : Option (List (List Piece))) (body : Command)
  | forNumbers (line : Nat) (first test next : List Piece) (body : Command)
  | case (line : Nat) (word : List Piece) (clauses : List Clause)
  | function (line : Nat) (name : Bytes) (body : Command)
  | condition (line : Nat) (c : Condition)
  | expression (line : Nat) (e : List Piece)

/-- A clause: patterns, a command, and the mark that ends it. -/
inductive Clause where
  | mk (patterns : List (List Piece)) (body : Command) (goesOn : Bool)

end

/-- A word. -/
abbrev Word := List Piece

instance : Inhabited Command := ⟨.nothing⟩

/-- A text that is given to a command in the script. -/
structure HereText where
  number : Nat
  body : Word

/-- The text of a word that has only unquoted texts. -/
def plainText? : Word → Option Bytes
  | [] => some []
  | .text false chars :: rest => (plainText? rest).map (chars ++ ·)
  | _ => none

/-- Whether a character may start a name. -/
def startsName (c : Char) : Bool :=
  c.isAlpha || c = '_'

/-- Whether a character may go on with a name. -/
def inName (c : Char) : Bool :=
  c.isAlphanum || c = '_'

/-- Whether a text is a name. -/
def isName : Bytes → Bool
  | [] => false
  | c :: rest => startsName c && rest.all inName

/-- The kind of shell. -/
inductive Dialect where
  | plain
  | extended
  deriving DecidableEq

end Lifelines.Shell
