import Lifelines.Utility.Printf
import Lifelines.Process.Job

/-!
# Tests

The utility `test` looks at texts, numbers and files. The number of its words
decides how they are read: up to four words are read as a whole, and only more
of them as tests with conjunctions and disjunctions between them. The plain shell
reads them from the left instead, and complains about what is left over.

* `Test.evaluate`: whether a test holds, or what is wrong with it.
-/

namespace Lifelines.Test

open Printf (Kind)

/-- Why a test has no answer. -/
inductive Fault where
  | unexpectedOperator (word : Bytes)
  | missingArgument (word : Bytes)
  | openParenthesis (found : Option Bytes)
  | notNumber (word : Bytes)
  | notUnary (word : Bytes)
  | notBinary (word : Bytes)
  | extraArgument (word : Bytes)
  | openBracket

/-- What is said about a fault. -/
def Fault.message (kind : Kind) : Fault → Bytes
  | unexpectedOperator w => w ++ ": unexpected operator".toList
  | missingArgument w =>
    match kind with
    | .plainShell => w ++ ": argument expected".toList
    | .extendedShell => "argument expected".toList
    | .program => "missing argument after '".toList ++ w ++ ['\'']
  | openParenthesis found =>
    match kind, found with
    | .plainShell, _ => "closing paren expected".toList
    | .extendedShell, none => "\x60)' expected".toList
    | .extendedShell, some w => "\x60)' expected, found ".toList ++ w
    | .program, none => "')' expected".toList
    | .program, some w => "')' expected, found '".toList ++ w ++ ['\'']
  | notNumber w =>
    match kind with
    | .plainShell => "Illegal number: ".toList ++ w
    | .extendedShell => w ++ ": integer expression expected".toList
    | .program => "invalid integer '".toList ++ w ++ ['\'']
  | notUnary w =>
    (if kind = .program then ['\''] ++ w ++ ['\''] else w) ++ ": unary operator expected".toList
  | notBinary w =>
    (if kind = .program then ['\''] ++ w ++ ['\''] else w) ++ ": binary operator expected".toList
  | extraArgument w =>
    if kind = .program then "extra argument '".toList ++ w ++ ['\''] else "too many arguments".toList
  | openBracket =>
    match kind with
    | .plainShell => "missing ]".toList
    | .extendedShell => "missing \x60]'".toList
    | .program => "missing ']'".toList

/-! ### Single tests -/

/-- The letters of the tests of one word. -/
def unaryLetters : Bytes :=
  "bcdefghknoprstuvwxzGLNOSR".toList

/-- Whether a word is a test of one word. -/
def isUnary (kind : Kind) (word : Bytes) : Bool :=
  match word with
  | ['-', c] =>
    (if kind = .extendedShell then unaryLetters
      else unaryLetters.filter fun c => !"novNR".toList.contains c || (c = 'n')).contains c
  | _ => false

/-- Whether a word is a comparison. -/
def isBinary (kind : Kind) (word : Bytes) : Bool :=
  match String.ofList word with
  | "=" | "!=" | "-eq" | "-ne" | "-lt" | "-le" | "-gt" | "-ge" | "-nt" | "-ot" | "-ef" => true
  | "==" => kind ≠ .plainShell
  | "<" | ">" => kind ≠ .program
  | _ => false

/-- Computations that may find a fault. -/
abbrev Testing := ExceptT Fault Act

/-- The number that a word is. -/
def number (kind : Kind) (word : Bytes) : Testing Int := do
  match Bytes.toInt? (Bytes.trim word) with
  | some n =>
    if kind ≠ .program && (n < -Int.pow 2 63 || Int.pow 2 63 ≤ n) then throw (.notNumber word)
    else return n
  | none => throw (.notNumber word)

/-- Tests one word. -/
def unary (kind : Kind) (letter : Char) (word : Bytes) : Testing Bool := do
  match letter with
  | 'z' => return word.isEmpty
  | 'n' => return !word.isEmpty
  | 't' =>
    if kind = .extendedShell then return false
    let _ ← number kind word
    return false
  | _ =>
    match ← Act.kind? word with
    | none => return false
    | some k =>
      match letter, k with
      | 'f', .file _ _ | 'd', .directory | 'c', .device => return true
      | 'x', .file _ executable => return executable
      | 'x', .directory => return true
      | 's', .file size _ => return size ≠ 0
      | 's', .directory => return true
      | 'e', _ | 'r', _ | 'w', _ | 'a', _ | 'O', _ | 'G', _ => return true
      | _, _ => return false

/-- How late a file has been written, the latest one having the smallest number. -/
def age (path : Bytes) : Act (Option Nat) := do
  let files := (← get).files
  match files.locate path.toText with
  | .ok l => return files.entries.findIdx? fun entry => entry.1 = l
  | .error _ => return none

/-- Compares two words. -/
def binary (kind : Kind) (operator left right : Bytes) : Testing Bool := do
  let numbers (holds : Int → Int → Bool) : Testing Bool := do
    return holds (← number kind left) (← number kind right)
  match String.ofList operator with
  | "=" | "==" => return left = right
  | "!=" => return left ≠ right
  | "<" => return Bytes.before left right
  | ">" => return Bytes.before right left
  | "-eq" => numbers fun a b => a = b
  | "-ne" => numbers fun a b => a ≠ b
  | "-lt" => numbers fun a b => a < b
  | "-le" => numbers fun a b => a ≤ b
  | "-gt" => numbers fun a b => b < a
  | "-ge" => numbers fun a b => b ≤ a
  | "-nt" =>
    match ← age left, ← age right with
    | some a, some b => return a < b
    | some _, none => return true
    | none, _ => return false
  | "-ot" =>
    match ← age left, ← age right with
    | some a, some b => return b < a
    | none, some _ => return true
    | _, none => return false
  | _ =>
    let files := (← getThe World).files
    match files.locate left.toText, files.locate right.toText with
    | .ok a, .ok b => return a = b && (files.node? a).isSome
    | _, _ => return false

/-! ### The plain shell -/

/-- Computations that read words from the left. -/
abbrev FromLeft := StateT (List Bytes) Testing

/-- What a word is to the plain shell. -/
inductive Meaning where
  | none
  | operand
  | unary (c : Char)
  | binary
  | not
  | and
  | or
  | openParen
  | closeParen
  deriving DecidableEq

/-- The meaning of the first of some words. An operator that cannot be meant as one
    is an operand. -/
def meaning : List Bytes → Meaning
  | [] => .none
  | word :: rest =>
    if isBinary .plainShell word then .binary
    else if isUnary .plainShell word then
      let isOperand :=
        match rest with
        | [] => true
        | [_] => false
        | next :: _ :: _ => isBinary .plainShell next
      if isOperand then .operand else .unary ((word[1]?).getD ' ')
    else
      match word with
      | ['!'] => .not
      | ['-', 'a'] => .and
      | ['-', 'o'] => .or
      | ['('] => if rest.isEmpty then .operand else .openParen
      | [')'] => .closeParen
      | _ => .operand

/-- The words that are left after a number of them. -/
def after (n : Nat) : FromLeft (List Bytes) := do
  return (← get).drop n

/-- Passes over words. -/
def pass (n : Nat) : FromLeft Unit :=
  modify fun words => words.drop n

/-- Reads a test, the reader for disjunctions being given; the last word of it stays
    the first one. -/
def primaryFromLeft (disjunction : FromLeft Bool) : FromLeft Bool := do
  let words ← get
  match meaning words, words with
  | .none, _ | _, [] => return false
  | .openParen, _ =>
    pass 1
    if meaning (← get) = .closeParen then return false
    let holds ← disjunction
    pass 1
    if meaning (← get) = .closeParen then return holds else throw (.openParenthesis none)
  | .unary c, word :: _ =>
    pass 1
    match ← get with
    | [] => throw (.missingArgument word)
    | operand :: _ => (unary .plainShell c operand : Testing Bool)
  | _, word :: rest =>
    match meaning rest, rest with
    | .binary, operator :: rest =>
      match rest with
      | [] => throw (.missingArgument operator)
      | right :: _ =>
        pass 2
        (binary .plainShell operator word right : Testing Bool)
    | _, _ => return !word.isEmpty

/-- Reads tests with signs between them; at most `fuel` words are read. -/
def disjunctionFromLeft : (fuel : Nat) → FromLeft Bool
  | 0 => return false
  | fuel + 1 => do
    let holds ← conjunction fuel
    if meaning (← after 1) = .or then
      pass 2
      return (← disjunctionFromLeft fuel) || holds
    else return holds
where
  /-- Reads a test that may be negated. -/
  negation : (fuel : Nat) → FromLeft Bool
    | 0 => return false
    | fuel + 1 => do
      if meaning (← get) = .not then
        if meaning (← after 1) ≠ .none then pass 1
        return !(← negation fuel)
      else primaryFromLeft (disjunctionFromLeft fuel)
  /-- Reads tests that all have to hold. -/
  conjunction : (fuel : Nat) → FromLeft Bool
    | 0 => return false
    | fuel + 1 => do
      let holds ← negation fuel
      if meaning (← after 1) = .and then
        pass 2
        return (← conjunction fuel) && holds
      else return holds

/-- Whether a test of the plain shell holds. -/
def evaluateFromLeft (words : List Bytes) : Testing Bool := do
  let (negated, words) := strip words
  let (holds, rest) ← (disjunctionFromLeft (4 * words.length + 4)).run words
  match rest with
  | _ :: _ :: _ => throw (.unexpectedOperator ((rest.head?).getD []))
  | _ => return holds != negated
where
  /-- Takes off a sign in front of three or four words, or parentheses around them. -/
  strip (words : List Bytes) : Bool × List Bytes :=
    match words with
    | [a, b, c] =>
      if isBinary .plainShell b then (false, words)
      else if a = ['('] && c = [')'] then (false, [b])
      else if a = ['!'] then (true, [b, c])
      else (false, words)
    | [a, b, c, d] =>
      if a = ['('] && d = [')'] then (false, [b, c])
      else if a = ['!'] then
        if isBinary .plainShell c then (true, [b, c, d])
        else if b = ['('] && d = [')'] then (true, [c])
        else if b = ['!'] then (false, [c, d])
        else (true, [b, c, d])
      else (false, words)
    | words => (false, words)

/-! ### By the number of words -/

/-- Computations that read words one by one. -/
abbrev ByCount := StateT (List Bytes) Testing

/-- Reads a word. -/
def take : ByCount Bytes := do
  match ← get with
  | [] => return []
  | word :: rest =>
    set rest
    return word

/-- Tests one word that has to be there. -/
def readOne : ByCount Bool := do
  return !(← take).isEmpty

/-- Reads a test of one word. -/
def readUnary (kind : Kind) (last : Bytes) : ByCount Bool := do
  let operator ← take
  if !isUnary kind operator then throw (.notUnary operator)
  match ← get with
  | [] => throw (.missingArgument last)
  | _ => (unary kind ((operator[1]?).getD ' ') (← take) : Testing Bool)

/-- Reads a comparison. -/
def readBinary (kind : Kind) : ByCount Bool := do
  let left ← take
  let operator ← take
  let right ← take
  (binary kind operator left right : Testing Bool)

/-- Whether a word is a dash and a letter. -/
def isDashed (word : Bytes) : Bool :=
  match word with
  | ['-', _] => true
  | _ => false

/-- Reads two words. -/
def readTwo (kind : Kind) (last : Bytes) : ByCount Bool := do
  match ← get with
  | ['!'] :: _ =>
    let _ ← take
    return !(← readOne)
  | word :: _ =>
    if isDashed word then readUnary kind last
    else throw (if kind = .program then .missingArgument last else .notUnary word)
  | [] => return false

/-- Reads three words, the reader for disjunctions being given. -/
def readThree (kind : Kind) (last : Bytes) (disjunction : ByCount Bool) : ByCount Bool := do
  match ← get with
  | a :: b :: c :: _ =>
    if isBinary kind b then readBinary kind
    else if b = ['-', 'a'] || b = ['-', 'o'] then disjunction
    else if a = ['!'] then
      let _ ← take
      return !(← readTwo kind last)
    else if a = ['('] && c = [')'] then
      let _ ← take
      let holds ← readOne
      let _ ← take
      return holds
    else throw (.notBinary b)
  | _ => return false

/-- Reads so many words, the reader for disjunctions being given. -/
def readCounted (kind : Kind) (last : Bytes) (disjunction : ByCount Bool) (n : Nat) :
    ByCount Bool := do
  match n, ← get with
  | 0, _ => return false
  | 1, _ => readOne
  | 2, _ => readTwo kind last
  | 3, _ => readThree kind last disjunction
  | 4, ['!'] :: _ =>
    let _ ← take
    return !(← readThree kind last disjunction)
  | 4, a :: _ :: _ :: d :: _ =>
    if a = ['('] && d = [')'] then
      let _ ← take
      let holds ← readTwo kind last
      let _ ← take
      return holds
    else disjunction
  | _, _ => disjunction

/-- Reads tests with signs between them; at most `fuel` words are read. -/
def disjunctionByCount (kind : Kind) (last : Bytes) : (fuel : Nat) → ByCount Bool
  | 0 => return false
  | fuel + 1 => do
    let holds ← conjunction fuel
    match ← get with
    | ['-', 'o'] :: _ =>
      let _ ← take
      return (← disjunctionByCount kind last fuel) || holds
    | _ => return holds
where
  /-- Reads a test that may be negated or in parentheses. -/
  term : (fuel : Nat) → ByCount Bool
    | 0 => return false
    | fuel + 1 => do
      match ← get with
      | [] => throw (.missingArgument last)
      | ['!'] :: _ =>
        let _ ← take
        return !(← term fuel)
      | ['('] :: rest =>
        let _ ← take
        let n := (rest.takeWhile (· ≠ [')'])).length
        let n := if n < 4 then n else rest.length
        let holds ← readCounted kind last (disjunctionByCount kind last fuel) n
        match ← get with
        | [')'] :: _ =>
          let _ ← take
          return holds
        | found => throw (.openParenthesis found.head?)
      | word :: next :: _ :: _ =>
        if isBinary kind next then readBinary kind
        else if isDashed word then readUnary kind last
        else readOne
      | word :: _ => if isDashed word then readUnary kind last else readOne
  /-- Reads tests that all have to hold. -/
  conjunction : (fuel : Nat) → ByCount Bool
    | 0 => return false
    | fuel + 1 => do
      let holds ← term fuel
      match ← get with
      | ['-', 'a'] :: _ =>
        let _ ← take
        return (← conjunction fuel) && holds
      | _ => return holds

/-- Whether a test holds that is read by the number of its words. -/
def evaluateByCount (kind : Kind) (words : List Bytes) : Testing Bool := do
  let last := (words.getLast?).getD []
  let disjunction := disjunctionByCount kind last (4 * words.length + 4)
  let (holds, rest) ← (readCounted kind last disjunction words.length).run words
  match rest with
  | word :: _ => throw (.extraArgument word)
  | [] => return holds

/-- Whether a test holds. -/
def evaluate (kind : Kind) (words : List Bytes) : Testing Bool :=
  if kind = .plainShell then evaluateFromLeft words else evaluateByCount kind words

/-- The utility: the status zero for a test that holds, one for one that does not,
    and two for a fault. In brackets, the last word has to be the closing one. -/
def test (kind : Kind) (inBrackets : Bool) (complain : Bytes → Work Unit) : Work Nat := do
  let args := (← read).args
  let words? : Option (List Bytes) :=
    if !inBrackets then some args
    else if args.getLast? = some [']'] then some args.dropLast
    else none
  let result ←
    match words? with
    | some words => (evaluate kind words).run
    | none => pure (.error .openBracket)
  match result with
  | .ok true => return 0
  | .ok false => return 1
  | .error f =>
    complain (f.message kind)
    return 2

end Lifelines.Test
