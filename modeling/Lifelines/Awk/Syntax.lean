import Lifelines.Pattern.Regex
import Lifelines.Text.Bytes

/-!
# Programs that work on records

A program for `awk` is a list of rules: what is done with the records that a
condition picks out, before the first record, or after the last one. Names stand
for values or for tables; those of a function's parameters are its own.

* `Expr`, `Statement`: what is evaluated and done;
* `Program`: rules and functions.
-/

namespace Lifelines.Awk

/-- What a name stands for. -/
inductive Name where
  | global (n : Bytes)
  /-- A parameter of the function at work, by its number. -/
  | own (i : Nat)
  deriving DecidableEq

/-- The operations on numbers. -/
inductive Arithmetic where
  | add
  | subtract
  | multiply
  | divide
  | remainder
  | power
  deriving DecidableEq

/-- The ways to compare. -/
inductive Comparison where
  | less
  | lessEqual
  | equal
  | notEqual
  | greater
  | greaterEqual
  deriving DecidableEq

/-- The functions that are always there. -/
inductive Builtin where
  | length
  | substr
  | index
  | split
  | sub
  | gsub
  | matchPlace
  | sprintf
  | toUpper
  | toLower
  | sin
  | cos
  | atan2
  | exp
  | log
  | sqrt
  | int
  | rand
  | srand
  | system
  | close
  | flush
  | time
  deriving DecidableEq

/-- An expression. -/
inductive Expr where
  | number (x : Float)
  | text (t : Bytes)
  /-- An expression for texts; by itself it says whether the record matches. -/
  | regex (r : Pattern.Regex)
  | name (n : Name)
  | field (e : Expr)
  | element (n : Name) (index : List Expr)
  | assign (op : Option Arithmetic) (target e : Expr)
  /-- Adds one or takes one away; the value is the old one or the new one. -/
  | step (newValue up : Bool) (target : Expr)
  | negate (e : Expr)
  | plus (e : Expr)
  | not (e : Expr)
  | arithmetic (op : Arithmetic) (a b : Expr)
  | join (a b : Expr)
  | compare (op : Comparison) (a b : Expr)
  | fits (wanted : Bool) (a b : Expr)
  | member (index : List Expr) (n : Name)
  | both (a b : Expr)
  | either (a b : Expr)
  | choose (c a b : Expr)
  | builtin (f : Builtin) (args : List Expr)
  | call (f : Bytes) (args : List Expr)
  /-- Reads the next record, perhaps into a variable. -/
  | readRecord (target : Option Expr)
  | readFile (file : Expr) (target : Option Expr)
  | readCommand (command : Expr) (target : Option Expr)
  /-- An expression in parentheses. -/
  | group (e : Expr)

/-- Where output goes. -/
inductive Outlet where
  | file
  | fileEnd
  | command
  deriving DecidableEq

/-- A statement. -/
inductive Statement where
  | expr (e : Expr)
  | print (args : List Expr) (outlet : Option (Outlet × Expr))
  | printf (args : List Expr) (outlet : Option (Outlet × Expr))
  | conditional (c : Expr) (a : Statement) (b : Option Statement)
  | whileLoop (c : Expr) (body : Statement)
  | doWhile (body : Statement) (c : Expr)
  | loop (first : Option Statement) (c : Option Expr) (after : Option Statement) (body : Statement)
  | forEach (target : Expr) (n : Name) (body : Statement)
  | block (body : List Statement)
  | nextRecord
  | nextFile
  | exit (e : Option Expr)
  | giveBack (e : Option Expr)
  | leaveLoop
  | nextRound
  | delete (n : Name) (index : List Expr)
  | clear (n : Name)

/-- Which records a rule is for. -/
inductive Selector where
  | start
  | finish
  | always
  | those (e : Expr)
  /-- From a record to a later one; the number tells such rules apart. -/
  | range (number : Nat) (a b : Expr)

/-- A rule. -/
structure Rule where
  selector : Selector
  body : Statement

/-- A function. -/
structure Function where
  name : Bytes
  parameters : List Bytes
  body : Statement

/-- A program. -/
structure Program where
  rules : List Rule := []
  functions : List Function := []
  /-- The names that stand for tables; those of parameters with their functions. -/
  tables : List (Option Bytes × Name) := []

end Lifelines.Awk
