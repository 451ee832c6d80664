import Lifelines.Pattern.RegexText
import Lifelines.Utility.Options

/-!
# Expressions given as words

Each word is an operand or an operator. A value is a text, which counts as a
number if it is written as one. From the weakest to the strongest, the operators
are those for either, for both, for comparisons, sums, products and matches, and
at last the operators that stand before their operands.

* `Expr.evaluate`: the value of an expression;
* `expr`.
-/

namespace Lifelines.Utility

namespace Expr

/-- Why an expression has no value. -/
inductive Fault where
  | missingArgument (after : Bytes)
  | unexpectedArgument (word : Bytes)
  | unexpectedClosing
  | expectedClosing (after : Bytes)
  | notInteger
  | divisionByZero
  | badPattern (fault : Pattern.RegexFault)

/-- The words about a fault. -/
def Fault.message : Fault → Bytes
  | missingArgument after => "syntax error: missing argument after ".toList ++ quoted after
  | unexpectedArgument word => "syntax error: unexpected argument ".toList ++ quoted word
  | unexpectedClosing => "syntax error: unexpected ')'".toList
  | expectedClosing after => "syntax error: expecting ')' after ".toList ++ quoted after
  | notInteger => "non-integer argument".toList
  | divisionByZero => "division by zero".toList
  | badPattern _ => "Invalid regular expression".toList

/-- The number that a value is. -/
def number? (value : Bytes) : Option Int :=
  match value with
  | '-' :: digits => (Bytes.toNat? digits).map fun n => -(n : Int)
  | digits => (Bytes.toNat? digits).map fun n => (n : Int)

/-- The number that a value has to be. -/
def number (value : Bytes) : Except Fault Int :=
  match number? value with
  | some n => .ok n
  | none => .error .notInteger

/-- Whether a value counts as nothing: the empty text or zero. -/
def isNull (value : Bytes) : Bool :=
  let digits := if value.head? = some '-' then value.drop 1 else value
  value.isEmpty || (!digits.isEmpty && digits.all (· = '0'))

/-- The value of an answer. -/
def truth (b : Bool) : Bytes :=
  if b then ['1'] else ['0']

/-- What an expression matches at the start of a text: the text of the first group, or
    the number of characters if there is none. -/
def fit (subject pattern : Bytes) : Except Fault Bytes :=
  match Pattern.RegexText.read? {} pattern with
  | .error e => .error (.badPattern e)
  | .ok r =>
    let chars := subject.toArray
    let grouped := hasGroup r
    match r.matchAt? chars 0 with
    | none => .ok (if grouped then [] else ['0'])
    | some f => .ok (if grouped then f.groupText chars 1 else Bytes.ofNat f.stop)
where
  /-- Whether an expression has a group. -/
  hasGroup : Pattern.Regex → Bool
    | .group _ _ => true
    | .both a b | .either a b => hasGroup a || hasGroup b
    | .repeated body _ _ => hasGroup body
    | _ => false

/-- Compares two values, as numbers if both are. -/
def compare (op : String) (a b : Bytes) : Bool :=
  let order : Ordering :=
    match number? a, number? b with
    | some m, some n => Ord.compare m n
    | _, _ => if a = b then .eq else if Bytes.before a b then .lt else .gt
  match op with
  | "<" => order = .lt
  | "<=" => order ≠ .gt
  | "=" | "==" => order = .eq
  | "!=" => order ≠ .eq
  | ">=" => order ≠ .lt
  | _ => order = .gt

/-- The operators of each strength, the weakest first. -/
def operators : Nat → List String
  | 0 => ["|"]
  | 1 => ["&"]
  | 2 => ["<", "<=", "=", "==", "!=", ">=", ">"]
  | 3 => ["+", "-"]
  | 4 => ["*", "/", "%"]
  | 5 => [":"]
  | _ => []

/-- Applies an operator. -/
def apply (op : String) (a b : Bytes) : Except Fault Bytes :=
  match op with
  | "|" => .ok (if !isNull a then a else if isNull b then ['0'] else b)
  | "&" => .ok (if isNull a || isNull b then ['0'] else a)
  | ":" => fit a b
  | "+" => do return Bytes.ofInt ((← number a) + (← number b))
  | "-" => do return Bytes.ofInt ((← number a) - (← number b))
  | "*" => do return Bytes.ofInt ((← number a) * (← number b))
  | "/" => do
    let m ← number a
    let n ← number b
    if n = 0 then throw .divisionByZero
    return Bytes.ofInt (m.tdiv n)
  | "%" => do
    let m ← number a
    let n ← number b
    if n = 0 then throw .divisionByZero
    return Bytes.ofInt (m.tmod n)
  | op => .ok (truth (compare op a b))

/-- What is read: the words that are left, and the word before them. -/
structure Place where
  before : Bytes
  rest : List Bytes

/-- Reading an expression. With `counts` false its value does not count, and what would
    be wrong with its operations is passed over. -/
abbrev Reading := StateT Place (Except Fault)

/-- Takes the next word; there has to be one. -/
def next : Reading Bytes := do
  let p ← get
  match p.rest with
  | [] => throw (.missingArgument p.before)
  | word :: rest =>
    set { before := word, rest := rest : Place }
    return word

/-- The result of an operation, or nothing if it does not count. -/
def counted (counts : Bool) (result : Except Fault Bytes) : Reading Bytes :=
  if counts then (match result with | .ok v => pure v | .error e => throw e) else pure []

/-- The characters of a text from a place on. -/
def substring (text position length : Bytes) : Bytes :=
  match number? position, number? length with
  | some p, some n => if p ≤ 0 || n ≤ 0 then [] else (text.drop (p.toNat - 1)).take n.toNat
  | _, _ => []

/-- Reads operators of a strength with their operands; strength six stands for single
    operands. -/
def read : (fuel : Nat) → (counts : Bool) → (strength : Nat) → Reading Bytes
  | 0, _, _ => do throw (.missingArgument (← get).before)
  | fuel + 1, counts, strength => do
    if strength = 6 then
      let word ← next
      match String.ofList word with
      | "(" =>
        let value ← read fuel counts 0
        match (← get).rest with
        | [')'] :: _ =>
          let _ ← next
          return value
        | [] => throw (.expectedClosing (← get).before)
        | other :: _ => throw (.unexpectedArgument other)
      | ")" => throw .unexpectedClosing
      | "+" => next
      | "length" => return Bytes.ofNat (← read fuel counts 6).length
      | "match" => do
        let subject ← read fuel counts 6
        counted counts (fit subject (← read fuel counts 6))
      | "index" => do
        let text ← read fuel counts 6
        let wanted ← read fuel counts 6
        return Bytes.ofNat ((text.findIdx? fun c => wanted.contains c).elim 0 (· + 1))
      | "substr" => do
        let text ← read fuel counts 6
        let position ← read fuel counts 6
        return substring text position (← read fuel counts 6)
      | _ => return word
    else
      let first ← read fuel counts (strength + 1)
      more fuel counts strength first
where
  /-- Reads further operands of a strength. -/
  more : (fuel : Nat) → (counts : Bool) → (strength : Nat) → Bytes → Reading Bytes
    | 0, _, _, value => return value
    | fuel + 1, counts, strength, value => do
      match (← get).rest with
      | word :: _ =>
        let op := String.ofList word
        if (operators strength).contains op then
          let _ ← next
          let needed := counts && !(op = "|" && !isNull value) && !(op = "&" && isNull value)
          let other ← read fuel needed (strength + 1)
          let value ← counted counts (apply op value other)
          more fuel counts strength value
        else return value
      | [] => return value

/-- The value of an expression. -/
def evaluate (words : List Bytes) : Except Fault Bytes := do
  let (value, place) ← (read (16 * words.length + 16) true 0).run ⟨[], words⟩
  match place.rest with
  | [] => return value
  | word :: _ => throw (.unexpectedArgument word)

end Expr

/-- Prints the value of an expression. -/
def expr : Work Nat := do
  let args := (← read).args
  let words := if args.head? = some ['-', '-'] then args.drop 1 else args
  if words.isEmpty then return ← misuse 2 "missing operand".toList
  match Expr.evaluate words with
  | .error e => Work.fail 2 e.message
  | .ok value =>
    Work.sayLine value
    return if Expr.isNull value then 1 else 0

end Lifelines.Utility
