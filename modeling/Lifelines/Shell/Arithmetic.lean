import Lifelines.Shell.Command
import Lifelines.Utility.Printf

/-!
# Arithmetic of the shell

Numbers have 64 bits and a sign, and they wrap around. An expression may look at
parameters, which hold texts, and it may assign to them; the second part of a
choice or of a logical operation is looked at only if it counts.

* `Sum`: expressions, read by `Sum.read?`;
* `Sum.evaluate`: the value of an expression and what it assigns.
-/

namespace Lifelines.Shell

/-- Expressions. -/
inductive Sum where
  | number (n : Int)
  | name (n : Bytes) (index : Option Sum)
  | unary (operator : String) (e : Sum)
  | binary (operator : String) (a b : Sum)
  | choose (c a b : Sum)
  /-- An assignment, perhaps of what an operator makes of the old value. -/
  | assign (operator : String) (n : Bytes) (index : Option Sum) (e : Sum)
  /-- The value of a parameter before or after something is added to it. -/
  | step (before : Bool) (delta : Int) (n : Bytes) (index : Option Sum)

/-- Why an expression has no value. -/
inductive SumFault where
  | expecting (what : String)
  | divisionByZero
  | illegalNumber (text : Bytes)
  | readOnly (name : Bytes)

namespace Sum

/-- A number in 64 bits with a sign. -/
def wrap (n : Int) : Int :=
  Int.bmod n (Nat.pow 2 64)

/-! ### Tokens -/

/-- A token of an expression. -/
inductive Part where
  | number (n : Int)
  | name (n : Bytes)
  | sign (s : String)
  deriving DecidableEq

/-- The signs, the longer ones first. -/
def signs (dialect : Dialect) : List String :=
  ["<<=", ">>=", "<<", ">>", "<=", ">=", "==", "!=", "&&", "||", "+=", "-=", "*=", "/=", "%=", "&=",
    "|=", "^="].append
  ((if dialect = .extended then ["**", "++", "--", ",", "[", "]"] else []) ++
    ["+", "-", "*", "/", "%", "<", ">", "&", "|", "^", "~", "!", "?", ":", "=", "(", ")"])

/-- A digit in bases up to 36. -/
def digitIn? (base : Nat) (c : Char) : Option Nat :=
  let v := if c.isDigit then c.toNat - '0'.toNat
    else if c.isAlpha then c.toLower.toNat - 'a'.toNat + 10 else 99
  if v < base then some v else none

/-- Reads a number; one that is too large becomes the largest. -/
def readNumber (dialect : Dialect) (text : Bytes) : Int × Bytes :=
  let clamp (n : Nat) : Int := if dialect = .plain then min n (Nat.pow 2 63 - 1 : Nat) else wrap n
  let value (base : Nat) (digits : Bytes) : Int :=
    clamp (digits.foldl (fun n c => n * base + (digitIn? base c).getD 0) 0)
  let take (base : Nat) (text : Bytes) : Int × Bytes :=
    let digits := text.takeWhile fun c => (digitIn? base c).isSome
    (value base digits, text.drop digits.length)
  match text with
  | '0' :: x :: d :: _ =>
    if (x = 'x' || x = 'X') && (digitIn? 16 d).isSome then take 16 (text.drop 2) else take 8 text
  | '0' :: _ => take 8 text
  | _ =>
    let (n, rest) := take 10 text
    match dialect, rest with
    | .extended, '#' :: d :: _ =>
      if (digitIn? n.toNat d).isSome then take n.toNat (rest.drop 1) else (n, rest)
    | _, _ => (n, rest)

/-- The tokens of an expression; what is no token is a sign of its own. -/
def parts (dialect : Dialect) : (fuel : Nat) → Bytes → List Part
  | 0, _ | _, [] => []
  | fuel + 1, c :: rest =>
    if Bytes.isSpace c then parts dialect fuel rest
    else if c.isDigit then
      let (n, after) := readNumber dialect (c :: rest)
      .number n :: parts dialect fuel after
    else if startsName c then
      let name := (c :: rest).takeWhile inName
      .name name :: parts dialect fuel ((c :: rest).drop name.length)
    else
      match (signs dialect).find? fun s => s.toList.isPrefixOf (c :: rest) with
      | some s => .sign s :: parts dialect fuel ((c :: rest).drop s.length)
      | none => .sign (String.ofList [c]) :: parts dialect fuel rest

/-! ### Reading -/

/-- Computations that read an expression. -/
abbrev Parser := StateT (List Part) (Except SumFault)

/-- Reads a sign, if it is there. -/
def accept (s : String) : Parser Bool := do
  match ← get with
  | .sign r :: rest =>
    if r = s then
      set rest
      return true
    else return false
  | _ => return false

/-- Reads one of some signs. -/
def acceptOne (choices : List String) : Parser (Option String) := do
  match ← get with
  | .sign r :: rest =>
    if choices.contains r then
      set rest
      return some r
    else return none
  | _ => return none

/-- The operators with two sides, those that bind weaker first. -/
def levels : List (List String) :=
  [["|"], ["^"], ["&"], ["==", "!="], ["<", "<=", ">", ">="], ["<<", ">>"], ["+", "-"],
    ["*", "/", "%"]]

/-- Reads operands with operators between them, the first being `a`. -/
def readChain (operators : List String) (operand : Parser Sum) : (fuel : Nat) → Sum → Parser Sum
  | 0, a => return a
  | fuel + 1, a => do
    match ← acceptOne operators with
    | some op => readChain operators operand fuel (.binary op a (← operand))
    | none => return a

/-- Reads operands of some levels. -/
def readLevels (single : Parser Sum) : List (List String) → Parser Sum
  | [] => single
  | operators :: tighter => do
    let a ← readLevels single tighter
    readChain operators (readLevels single tighter) (← get).length a

/-- Reads the index of an element. -/
def readIndex (whole : Parser Sum) : Parser (Option Sum) := do
  if ← accept "[" then
    let e ← whole
    if !(← accept "]") then throw (.expecting "expecting ']'")
    return some e
  else return none

/-- Reads an operand, the readers for whole expressions and for operands being
    given. -/
def readPrimary (whole again : Parser Sum) : Parser Sum := do
  match ← get with
  | .number n :: rest =>
    set rest
    return .number n
  | .name n :: rest =>
    set rest
    let index ← readIndex whole
    if ← accept "++" then return .step true 1 n index
    if ← accept "--" then return .step true (-1) n index
    return .name n index
  | .sign "(" :: rest =>
    set rest
    let e ← whole
    if !(← accept ")") then throw (.expecting "expecting ')'")
    return e
  | .sign "+" :: rest =>
    set rest
    again
  | .sign s :: rest =>
    if s = "-" || s = "!" || s = "~" then
      set rest
      return .unary s (← again)
    else if s = "++" || s = "--" then
      set rest
      match ← get with
      | .name n :: rest =>
        set rest
        return .step false (if s = "++" then 1 else -1) n (← readIndex whole)
      | _ =>
        let e ← again
        return if s = "++" then e else .unary "-" (.unary "-" e)
    else throw (.expecting "expecting primary")
  | [] => throw (.expecting "expecting primary")

/-- The operators that assign. -/
def assigning : List String :=
  ["=", "+=", "-=", "*=", "/=", "%=", "<<=", ">>=", "&=", "^=", "|="]

/-- Reads a power: an operand and, if there is the sign for it, its exponent. -/
def readPower (single : Parser Sum) : Nat → Parser Sum
  | 0 => single
  | fuel + 1 => do
    let a ← single
    if ← accept "**" then return .binary "**" a (← readPower single fuel) else return a

/-- Reads a disjunction or a conjunction; both associate to the right. -/
def readLogical (op : String) (operand : Parser Sum) : Nat → Parser Sum
  | 0 => operand
  | fuel + 1 => do
    let a ← operand
    if ← accept op then return .binary op a (← readLogical op operand fuel) else return a

/-- The reader for expressions at most `fuel` deep: whole ones, and operands. -/
def reader (dialect : Dialect) : (fuel : Nat) → Parser Sum × Parser Sum
  | 0 => (throw (.expecting "expecting primary"), throw (.expecting "expecting primary"))
  | fuel + 1 =>
    let deeper (s : List Part) := (reader dialect fuel).1 s
    let operand (s : List Part) := readPrimary deeper (fun s => (reader dialect fuel).2 s) s
    let conditional : Parser Sum := do
      let n := (← get).length
      let c ← readLogical "||" (readLogical "&&" (readLevels (readPower operand n) levels) n) n
      if ← accept "?" then
        let a ← deeper
        if !(← accept ":") then throw (.expecting "expecting ':'")
        return .choose c a (← deeper)
      else return c
    let assignment : Parser Sum := do
      let e ← conditional
      match e, ← get with
      | .name n index, .sign s :: rest =>
        if assigning.contains s then
          set rest
          return .assign (String.ofList s.toList.dropLast) n index (← deeper)
        else return e
      | _, _ => return e
    let whole : Parser Sum := do
      let e ← assignment
      if dialect = .extended then readChain [","] assignment (← get).length e else return e
    (whole, operand)

/-- The expression that a text stands for. -/
def read? (dialect : Dialect) (text : Bytes) : Except SumFault Sum :=
  let ps := parts dialect (text.length + 1) text
  match (reader dialect (ps.length + 1)).1.run ps with
  | .error e => .error e
  | .ok (e, []) => .ok e
  | .ok (_, _ :: _) => .error (.expecting "expecting EOF")

/-! ### Evaluation -/

/-- A power by squaring would be quicker, but exponents are small. -/
def power (a : Int) : Nat → Int
  | 0 => 1
  | n + 1 => wrap (a * power a n)

/-- The value of an operation; the logical ones are not among them. -/
def operate (op : String) (a b : Int) : Except SumFault Int :=
  let truth (p : Bool) : Except SumFault Int := .ok (if p then 1 else 0)
  let bits (f : Nat → Nat → Nat) : Except SumFault Int :=
    .ok (wrap (f (a % Int.pow 2 64).toNat (b % Int.pow 2 64).toNat))
  let shift := (b % 64).toNat
  match op with
  | "+" => .ok (wrap (a + b))
  | "-" => .ok (wrap (a - b))
  | "*" => .ok (wrap (a * b))
  | "/" => if b = 0 then .error .divisionByZero else .ok (wrap (a.tdiv b))
  | "%" => if b = 0 then .error .divisionByZero else .ok (a.tmod b)
  | "**" => if b < 0 then .error .divisionByZero else .ok (power a (min b.toNat 4096))
  | "<<" => .ok (wrap (a * Int.pow 2 shift))
  | ">>" => .ok (a.fdiv (Int.pow 2 shift))
  | "&" => bits (· &&& ·)
  | "|" => bits (· ||| ·)
  | "^" => bits (· ^^^ ·)
  | "<" => truth (a < b)
  | "<=" => truth (a ≤ b)
  | ">" => truth (b < a)
  | ">=" => truth (b ≤ a)
  | "==" => truth (a = b)
  | "!=" => truth (a ≠ b)
  | _ => .ok b

/-- What an expression looks at and assigns to: an element of a parameter, or the
    parameter itself. -/
structure Parameters (m : Type → Type) where
  get : Bytes → Option Int → m Int
  set : Bytes → Option Int → Int → m Unit
  /-- Gives up. -/
  fail : SumFault → m Int

/-- The value of an expression. -/
def evaluate {m : Type → Type} [Monad m] (ps : Parameters m) : Sum → m Int
  | number n => return n
  | name n none => ps.get n none
  | name n (some i) => do ps.get n (some (← evaluate ps i))
  | unary op e => do
    let a ← evaluate ps e
    match op with
    | "-" => return wrap (-a)
    | "!" => return if a = 0 then 1 else 0
    | _ => return -a - 1
  | binary op a b => do
    let x ← evaluate ps a
    let truth (y : Int) : Int := if y = 0 then 0 else 1
    if op = "&&" then
      if x = 0 then return 0 else return truth (← evaluate ps b)
    else if op = "||" then
      if x ≠ 0 then return 1 else return truth (← evaluate ps b)
    else
      let y ← evaluate ps b
      match operate op x y with
      | .ok z => return z
      | .error e => ps.fail e
  | choose c a b => do
    if (← evaluate ps c) ≠ 0 then evaluate ps a else evaluate ps b
  | assign op n none e => do
    let y ← evaluate ps e
    update op n none y
  | assign op n (some i) e => do
    let k ← evaluate ps i
    let y ← evaluate ps e
    update op n (some k) y
  | step before delta n none => advance before delta n none
  | step before delta n (some i) => do advance before delta n (some (← evaluate ps i))
where
  /-- Assigns a value or what an operator makes of the old one and it. -/
  update (op : String) (n : Bytes) (k : Option Int) (y : Int) : m Int := do
    if op.isEmpty then
      ps.set n k y
      return y
    else
      match operate op (← ps.get n k) y with
      | .ok z =>
        ps.set n k z
        return z
      | .error e => ps.fail e
  /-- Adds to a parameter. -/
  advance (before : Bool) (delta : Int) (n : Bytes) (k : Option Int) : m Int := do
    let x ← ps.get n k
    let y := wrap (x + delta)
    ps.set n k y
    return if before then x else y

/-- The number that the value of a parameter stands for. -/
def valueOf? (text : Bytes) : Option Int :=
  match Printf.readInteger text with
  | some (n, rest) => if (Bytes.trimStart rest).isEmpty then some (Printf.clampSigned n) else none
  | none => if (Bytes.trim text).isEmpty then some 0 else none

end Sum

end Lifelines.Shell
