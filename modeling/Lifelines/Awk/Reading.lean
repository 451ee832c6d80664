import Lifelines.Awk.Separator
import Lifelines.Awk.Token

/-!
# Reading tokens

What reads a program looks at one token at a time and may complain about it. A
complaint does not end the reading: something misplaced is skipped up to where it
can go on, and whatever is found after that is complained about, too, until there
are enough complaints. Where brackets and parentheses are open decides what is
said to be missing.

* `Reading`, `Grammar`: what is known while a program is read, and computations
  that read it;
* `Grammar.advance`: goes on to the next token that stands for something;
* `Grammar.unexpected`, `Grammar.report`: complaints;
* `Grammar.use`: what kind of thing a name stands for.
-/

namespace Lifelines.Awk

/-- What a name stands for. -/
inductive Kind where
  | variable
  | table
  deriving DecidableEq

/-- A kind in words. -/
def Kind.spelled : Kind → Bytes
  | .variable => "variable".toList
  | .table => "array".toList

/-- A name and the function whose parameter it is. -/
abbrev Owned := Option Bytes × Name

/-- A call of a function. -/
structure Call where
  function : Bytes
  /-- The arguments that are nothing but names. -/
  args : List (Option Owned)
  /-- What is known about the arguments when the call is read. -/
  kinds : List (Option Kind)
  spot : Spot

/-- What is known while a program is read. -/
structure Reading where
  tokens : List (Token × Spot)
  /-- How many parentheses and brackets are open. -/
  parens : Nat := 0
  braces : Nat := 0
  /-- For how many tokens nothing is said about misplaced ones. -/
  quiet : Nat := 0
  /-- What is wrong, the latest first. -/
  faults : List Fault := []
  /-- The function that is being read, and its parameters. -/
  owner : Option Bytes := none
  parameters : List Bytes := []
  kinds : List (Owned × Kind) := []
  /-- The functions that are called or defined. -/
  functions : List Bytes := []
  /-- The calls, the latest first. -/
  calls : List Call := []
  /-- How many loops are open. -/
  loops : Nat := 0
  /-- Whether there is a record to go on from. -/
  hasRecord : Bool := false
  /-- The number of the next range of records. -/
  ranges : Nat := 0

/-- Why reading stops. -/
inductive Stop where
  /-- Something is where it cannot be; reading may go on after it. -/
  | misplaced
  /-- Nothing more is read. -/
  | ended

/-- Computations that read a program. -/
abbrev Grammar := ExceptT Stop (StateM Reading)

namespace Grammar

/-- The brackets around statements. -/
def opening : String := "\x7b"
def closing : String := "\x7d"

/-- The next token and its place. -/
def here : Grammar (Token × Spot) := do
  return (← get).tokens.headD (.finish, ⟨none, 0⟩)

/-- The next token. -/
def peek : Grammar Token := do
  return (← here).1

/-! ### Complaints -/

/-- How many complaints are enough. -/
def enough : Nat := 5

/-- Complains in so many words. -/
def complain (f : Fault) : Grammar Unit := do
  modify fun s => { s with faults := f :: s.faults }
  if enough ≤ (← get).faults.length then throw .ended

/-- Complains about something at the next token and goes on. -/
def report (text : Bytes) : Grammar Unit := do
  complain ((← here).2.fault text)

/-- Complains about the next token: that it is there, or that something is missing before
    it. -/
def unexpected {α : Type} : Grammar α := do
  let (t, spot) ← here
  let s ← get
  let endsParens : Bool :=
    match t with
    | .newline => true
    | .sign s => s = ";" || s = closing
    | _ => false
  let endsBraces : Bool :=
    match t with
    | .finish => true
    | .word w => w = "BEGIN".toList || w = "END".toList
    | _ => false
  let missing (what : String) : Grammar Unit :=
    complain (spot.fault ("missing ".toList ++ what.toList ++ " near ".toList ++ t.spelled))
  if 0 < s.quiet then pure ()
  else if 0 < s.parens && endsParens then
    set { s with parens := 0 }
    missing ")"
  else if 0 < s.braces && endsBraces then
    set { s with braces := 0 }
    missing closing
  else
    match t with
    | .stray complaint => complain complaint
    | t => complain (spot.fault ("syntax error at or near ".toList ++ t.spelled))
  match t with
  | .finish => throw .ended
  | _ => throw .misplaced

/-! ### Going on -/

/-- Leaves out newlines. -/
def dropNewlines : Grammar Unit :=
  modify fun s => { s with tokens := s.tokens.dropWhile fun t => match t.1 with | .newline => true | _ => false }

/-- Leaves out a semicolon. -/
def dropSemicolon : Grammar Unit :=
  modify fun s =>
    match s.tokens with
    | (.sign ";", _) :: rest => { s with tokens := rest }
    | _ => s

/-- Looks at the next token: counts what it opens and closes, and leaves out what closes
    nothing. -/
def settle : (fuel : Nat) → Grammar Unit
  | 0 => return
  | fuel + 1 => do
    let skip : Grammar Unit := modify fun s => { s with tokens := s.tokens.drop 1 }
    let s ← get
    match ← here with
    | (.runaway complaint, spot) =>
      complain (spot.fault complaint)
      throw .ended
    | (.sign sign, _) =>
      if sign = "(" then set { s with parens := s.parens + 1 }
      else if sign = opening then set { s with braces := s.braces + 1 }
      else if sign = ")" then
        if s.parens = 0 then
          report "extra ')'".toList
          skip
          settle fuel
        else set { s with parens := s.parens - 1 }
      else if sign = closing then
        if s.braces = 0 then
          report "extra '\x7d'".toList
          skip
          dropSemicolon
          settle fuel
        else set { s with braces := s.braces - 1 }
    | _ => return

/-- Whether newlines after a token mean nothing. -/
def joinsLines : Token → Bool
  | .newline => true
  | .sign s => [";", ",", "&&", "||", opening, closing].contains s
  | .word w => w = "else".toList || w = "do".toList
  | _ => false

/-- Goes on to the next token. -/
def advance : Grammar Unit := do
  let t ← peek
  modify fun s => { s with tokens := s.tokens.drop 1, quiet := s.quiet - 1 }
  match t with
  | .sign s => if s = closing && (← get).braces = 0 then dropSemicolon
  | _ => pure ()
  if joinsLines t then dropNewlines
  settle ((← get).tokens.length + 1)

/-- Looks at the first token. -/
def start : Grammar Unit := do
  dropNewlines
  settle ((← get).tokens.length + 1)

/-- Reads newlines. -/
def skipNewlines : Grammar Unit := do
  match ← peek with
  | .newline => advance
  | _ => return

/-- Goes on to where a statement may end, as if none had been begun. -/
def skipStatement : (fuel : Nat) → Grammar Unit
  | 0 => throw .ended
  | fuel + 1 => do
    let reset : Grammar Unit := modify fun s => { s with parens := 0, quiet := 0 }
    match ← peek with
    | .newline | .sign ";" =>
      reset
      advance
    | .finish => throw .ended
    | .sign s =>
      if s = closing then reset
      else
        advance
        skipStatement fuel
    | _ =>
      advance
      skipStatement fuel

/-- Goes on to an opening bracket. -/
def skipToBlock : (fuel : Nat) → Grammar Unit
  | 0 => throw .ended
  | fuel + 1 => do
    match ← peek with
    | .finish => throw .ended
    | .sign s =>
      if s = opening then return
      else
        advance
        skipToBlock fuel
    | _ =>
      advance
      skipToBlock fuel

/-! ### Single tokens -/

/-- Whether the next token is a sign. -/
def isSign (s : String) : Grammar Bool := do
  match ← peek with
  | .sign t => return t = s
  | _ => return false

/-- Whether the next token is a word. -/
def isWord (w : String) : Grammar Bool := do
  match ← peek with
  | .word t | .callable t => return t = w.toList
  | _ => return false

/-- Reads a sign, if it is next. -/
def accept (s : String) : Grammar Bool := do
  if ← isSign s then
    advance
    return true
  else return false

/-- Reads a word, if it is next. -/
def acceptWord (w : String) : Grammar Bool := do
  if ← isWord w then
    advance
    return true
  else return false

/-- Reads one of some signs. -/
def acceptOne (choices : List String) : Grammar (Option String) := do
  match ← peek with
  | .sign t =>
    if choices.contains t then
      advance
      return some t
    else return none
  | _ => return none

/-- Reads a sign that has to be next. -/
def expect (s : String) : Grammar Unit := do
  if !(← accept s) then unexpected

/-- The expression for texts that is written somewhere. -/
def pattern (spot : Spot) (source : Bytes) : Grammar Pattern.Regex := do
  match readPattern source with
  | .ok r => return r
  | .error text =>
    complain (spot.fault text)
    throw .ended

/-! ### Names -/

/-- What a word stands for. -/
def resolve (w : Bytes) : Grammar Name := do
  match (← get).parameters.findIdx? (· = w) with
  | some i => return .own i
  | none => return .global w

/-- A name with its owner. -/
def owned (n : Name) : Grammar Owned := do
  match n with
  | .own _ => return ((← get).owner, n)
  | .global _ => return (none, n)

/-- What is known about a name. -/
def kind? (n : Owned) : Grammar (Option Kind) := do
  return (← get).kinds.lookup n

/-- Says what kind of thing a name stands for, unless that is known. -/
def learn (n : Owned) (k : Kind) : Grammar Unit :=
  modify fun s => if (s.kinds.lookup n).isSome then s else { s with kinds := (n, k) :: s.kinds }

/-- Uses a name for something of a kind; `w` is how it is written. -/
def use (w : Bytes) (n : Name) (k : Kind) : Grammar Unit := do
  let o ← owned n
  learn o k
  match ← kind? o with
  | some other =>
    if other ≠ k then
      let place : String := match n with | .own _ => "local " | .global _ => ""
      report ("illegal reference to ".toList ++ place.toList ++ other.spelled ++ [' '] ++ w)
  | none => return

/-- Reads the name of a table. -/
def tableName : Grammar Name := do
  match ← peek with
  | .word w =>
    if !Token.isFree w || w = "NF".toList then unexpected
    advance
    let n ← resolve w
    use w n .table
    return n
  | _ => unexpected

/-- Notes a call; what is known about parameters and arguments is known about both. -/
def noteCall (c : Call) : Grammar Unit := do
  modify fun s => { s with calls := c :: s.calls, functions := c.function :: s.functions }
  for (a, i) in c.args.zipIdx do
    match a, ← kind? (some c.function, .own i) with
    | some a, some k => learn a k
    | _, _ => pure ()

/-- What calls tell about the parameters of a function that is defined after them: each
    tells about one. -/
def learnFromCalls (f : Bytes) : Grammar Unit := do
  for c in (← get).calls.reverse do
    if c.function = f then
      match c.kinds.zipIdx.find? fun (k, _) => k.isSome with
      | some (some k, i) => learn (some f, .own i) k
      | _ => pure ()

end Grammar

end Lifelines.Awk
