import Lifelines.Pattern.Regex
import Lifelines.Text.Bytes

/-!
# Commands of the stream editor

A script of the stream editor is a row of commands. Each command says for which
lines it is carried out: for one address, for the lines from one address to
another, or for all lines, or for all but these. What a command changes is the
*pattern space*, a text that holds the line that was read last.

* `Address`, `Scope`: for which lines a command is carried out;
* `Substitution`: what is replaced by what;
* `Action`, `Command`.
-/

namespace Lifelines.Editor

open Pattern

/-- What a line has to be. -/
inductive Address where
  /-- The line with a number. -/
  | line (n : Nat)
  /-- The line with a number and each one so many lines further. -/
  | step (first distance : Nat)
  /-- The last line. -/
  | last
  /-- A line that matches, if nothing is given, what was used last. -/
  | fitting (r : Option Regex)

/-- Where a range of lines ends. -/
inductive RangeEnd where
  | at (a : Address)
  /-- So many lines after its start. -/
  | after (n : Nat)
  /-- At the next line whose number is a multiple. -/
  | multiple (n : Nat)

/-- For which lines a command is carried out. -/
structure Scope where
  start : Option Address := none
  stop : Option RangeEnd := none
  /-- Whether the other lines are meant. -/
  negated : Bool := false

/-- How letters are changed that are put in. -/
inductive Casing where
  | upper
  | lower
  | kept
  deriving DecidableEq

/-- A part of what is put in. -/
inductive Insertion where
  | text (t : Bytes)
  /-- What a group has matched; at zero, all that was matched. -/
  | group (n : Nat)
  /-- From here on letters are changed. -/
  | casing (c : Casing)
  /-- The next letter is changed. -/
  | nextCasing (c : Casing)

/-- What is replaced by what. -/
structure Substitution where
  pattern : Option Regex
  insertions : List Insertion
  /-- Which match is the first to be replaced, counted from one. -/
  first : Nat := 1
  /-- Whether all further matches are replaced, too. -/
  all : Bool := false
  /-- How often the result is printed. -/
  prints : Nat := 0
  /-- The file that the result is written to. -/
  output : Option Bytes := none

/-- When a jump is taken. -/
inductive JumpTest where
  | always
  | replaced
  | notReplaced
  deriving DecidableEq

/-- What a command does. -/
inductive Action where
  /-- Goes on with the commands in braces, or else after the command with this number. -/
  | enter (stop : Nat)
  | leave
  | jump (test : JumpTest) (label : Bytes) (target : Nat)
  | append (text : Bytes)
  | insert (text : Bytes)
  | change (text : Bytes)
  | delete
  | deleteFirst
  | fileName
  | get
  | getMore
  | hold
  | holdMore
  | exchange
  | list (width : Option Nat)
  | next
  | nextMore
  | print
  | printFirst
  | quit (printing : Bool) (status : Nat)
  | readFile (path : Bytes)
  | readLine (path : Bytes)
  | substitute (s : Substitution)
  | writeFile (path : Bytes)
  | writeFirst (path : Bytes)
  | exchangeLetters (source target : Bytes)
  | clear
  | lineNumber
  | nothing

/-- A command. -/
structure Command where
  scope : Scope := {}
  action : Action

end Lifelines.Editor
