import Lifelines.Awk.Reading

/-!
# Reading programs

The tokens of a program are put together to rules and functions. Which names stand
for tables follows from how they are used, also as arguments of functions.

* `Program.read`: the program that texts stand for.
-/

namespace Lifelines.Awk

namespace Grammar

/-! ### Expressions -/

/-- Whether an expression may be assigned to. -/
def isPlace : Expr → Bool
  | .name _ | .field _ | .element _ _ => true
  | _ => false

/-- Reads operands with operators between them. -/
def chain (operand : Grammar Expr) (operators : List String) (join : String → Expr → Expr → Expr) :
    (fuel : Nat) → Expr → Grammar Expr
  | 0, a => return a
  | fuel + 1, a => do
    match ← acceptOne operators with
    | some op => chain operand operators join fuel (join op a (← operand))
    | none => return a

/-- Reads operands with operators between them, the first one too. -/
def leftward (operand : Grammar Expr) (operators : List String) (join : String → Expr → Expr → Expr) :
    Grammar Expr := do
  let first ← operand
  chain operand operators join (← get).tokens.length first

/-- The operation of a sign. -/
def operationOf (s : String) : Arithmetic :=
  match s with
  | "+" => .add
  | "-" => .subtract
  | "*" => .multiply
  | "/" => .divide
  | "%" => .remainder
  | _ => .power

/-- The comparison of a sign. -/
def comparisonOf (s : String) : Comparison :=
  match s with
  | "<" => .less
  | "<=" => .lessEqual
  | "==" => .equal
  | "!=" => .notEqual
  | ">" => .greater
  | _ => .greaterEqual

/-- Whether a token may begin a text that is joined to the one before it. -/
def beginsOperand (t : Token) : Bool :=
  match t with
  | .number _ _ | .text _ | .regex _ => true
  | .word w | .callable w =>
    let w := String.ofList w
    !Token.keywords.contains w || w = "getline"
  | .sign s => ["$", "!", "(", "++", "--"].contains s
  | _ => false

/-- Reads sums that are joined. -/
def joined (sum : Grammar Expr) : (fuel : Nat) → Expr → Grammar Expr
  | 0, a => return a
  | fuel + 1, a => do
    let t ← peek
    if beginsOperand t then joined sum fuel (.join a (← sum)) else return a

/-- The signs that assign, with what they do with the old value. -/
def assigning : List (String × Option Arithmetic) :=
  [("=", none), ("+=", some .add), ("-=", some .subtract), ("*=", some .multiply), ("/=", some .divide),
    ("%=", some .remainder), ("^=", some .power)]

/-- Reads what is joined. -/
def concatenation (unary : Grammar Expr) : Grammar Expr := do
  let product := leftward unary ["*", "/", "%"] fun op a b => .arithmetic (operationOf op) a b
  let sum := leftward product ["+", "-"] fun op a b => .arithmetic (operationOf op) a b
  let first ← sum
  joined sum (← get).tokens.length first

/-- A text that stands where an expression for texts belongs is one. -/
def constantPattern (spot : Spot) (e : Expr) : Grammar Expr := do
  match e with
  | .text t => return .regex (← pattern spot t)
  | e => return e

/-- Reads an expression, the readers for whole expressions and for operands being given;
    in `printed` ones a greater sign means something else. -/
def whole (deeper : Bool → Grammar Expr) (unary : Grammar Expr) (printed : Bool) : Grammar Expr := do
  let assignment : Grammar Expr := do
    let e ← concatenation unary
    match isPlace e, ← peek with
    | true, .sign s =>
      match assigning.lookup s with
      | some op =>
        advance
        return .assign op e (← deeper printed)
      | none => return e
    | _, _ => return e
  let comparisons := ["<", "<=", "==", "!=", ">="] ++ if printed then [] else [">"]
  let comparison := leftward assignment comparisons fun op a b => .compare (comparisonOf op) a b
  let fitting : Grammar Expr := do
    let e ← comparison
    fits comparison (← get).tokens.length e
  let membership : Grammar Expr := do
    let e ← fitting
    members (← get).tokens.length e
  let conjunction : Grammar Expr := do
    let e ← membership
    logical "&&" membership .both (← get).tokens.length e
  let disjunction : Grammar Expr := do
    let e ← conjunction
    logical "||" conjunction .either (← get).tokens.length e
  let c ← disjunction
  if ← accept "?" then
    let a ← deeper printed
    expect ":"
    return .choose c a (← deeper printed)
  else return c
where
  /-- Reads expressions that something has to match. -/
  fits (comparison : Grammar Expr) : (fuel : Nat) → Expr → Grammar Expr
    | 0, e => return e
    | fuel + 1, e => do
      match ← acceptOne ["~", "!~"] with
      | some op =>
        let spot := (← here).2
        fits comparison fuel (.fits (op = "~") e (← constantPattern spot (← comparison)))
      | none => return e
  /-- Reads tables that something may be in. -/
  members : (fuel : Nat) → Expr → Grammar Expr
    | 0, e => return e
    | fuel + 1, e => do
      if ← acceptWord "in" then members fuel (.member [e] (← tableName)) else return e
  /-- Reads conditions with an operator between them. -/
  logical (s : String) (operand : Grammar Expr) (make : Expr → Expr → Expr) : (fuel : Nat) → Expr → Grammar Expr
    | 0, e => return e
    | fuel + 1, e => do
      if ← accept s then logical s operand make fuel (make e (← operand))
      else return e

/-- Reads expressions with commas between them. -/
def arguments (deeper : Bool → Grammar Expr) : (fuel : Nat) → Grammar (List Expr)
  | 0 => return []
  | fuel + 1 => do
    let e ← deeper false
    if ← accept "," then return e :: (← arguments deeper fuel) else return [e]

/-- Reads what is between parentheses, the opening one being read. -/
def inParentheses (deeper : Bool → Grammar Expr) : Grammar (List Expr) := do
  if ← accept ")" then return []
  let args ← arguments deeper (← get).tokens.length
  expect ")"
  return args

/-- Reads a name that is nothing but an argument. -/
def bareName? : Grammar (Option Name) := do
  match (← get).tokens with
  | (.word w, _) :: (.sign s, _) :: _ =>
    if (s = "," || s = ")") && Token.isFree w then
      let n ← resolve w
      if (← get).functions.contains w && n = .global w then return none
      advance
      return some n
    else return none
  | _ => return none

/-- Reads the arguments of a function, up to the closing parenthesis. -/
def callArguments (deeper : Bool → Grammar Expr) : (fuel : Nat) → Grammar (List (Expr × Option Owned))
  | 0 => return []
  | fuel + 1 => do
    let arg : Expr × Option Owned ←
      match ← bareName? with
      | some n => do pure (Expr.name n, some (← owned n))
      | none => do pure (← deeper false, none)
    if ← accept "," then return arg :: (← callArguments deeper fuel) else return [arg]

/-- Reads a place. -/
def place (primary : Grammar Expr) : Grammar Expr := do
  match ← peek with
  | .sign s => if s ≠ "$" then unexpected
  | .word w => if !Token.isFree w then unexpected
  | _ => unexpected
  let e ← primary
  if !isPlace e then unexpected
  return e

/-- Reads the place that is the last argument of a function, if it is given. -/
def lastPlace (primary : Grammar Expr) : Grammar (List Expr) := do
  if ← accept "," then return [← place primary] else return []

/-- Reads the arguments of a function that is always there. -/
def builtinCall (deeper : Bool → Grammar Expr) (primary : Grammar Expr) (name : Bytes) (f : Builtin)
    (least most : Nat) : Grammar Expr := do
  let constant : Grammar Expr := do
    let spot := (← here).2
    constantPattern spot (← deeper false)
  if !(← isSign "(") then
    if f = .length || f = .flush then return .builtin f []
    unexpected
  advance
  match f with
  | .length =>
    if ← accept ")" then return .builtin f []
    let e ← match ← bareName? with | some n => pure (Expr.name n) | none => deeper false
    expect ")"
    return .builtin f [e]
  | .split =>
    let e ← deeper false
    expect ","
    let n ← tableName
    let separator : List Expr ←
      if ← accept "," then do
        let spot := (← here).2
        let s ← deeper false
        match s with
        | .text t => if 1 < t.length then let _ ← pattern spot t
        | _ => pure ()
        pure [s]
      else pure []
    expect ")"
    return .builtin f (e :: .name n :: separator)
  | .sub | .gsub =>
    let r ← constant
    expect ","
    let by' ← deeper false
    let target ← lastPlace primary
    expect ")"
    return .builtin f (r :: by' :: target)
  | .matchPlace =>
    let e ← deeper false
    expect ","
    let r ← constant
    expect ")"
    return .builtin f [e, r]
  | f =>
    let args ← inParentheses deeper
    if args.length < least || most < args.length then
      report ("wrong number of arguments in call to ".toList ++ name)
    return .builtin f args

/-- Reads the arguments of a function. -/
def call (deeper : Bool → Grammar Expr) (f : Bytes) : Grammar Expr := do
  let spot := (← here).2
  expect "("
  let args ← if ← isSign ")" then pure [] else callArguments deeper (← get).tokens.length
  expect ")"
  let kinds : List (Option Kind) ← args.mapM fun (_, n) => do
    match n with
    | some n => kind? n
    | none => return some .variable
  noteCall ⟨f, args.map (·.2), kinds, spot⟩
  return .call f (args.map (·.1))

/-- Reads what a record may be read into. -/
def readTarget (primary : Grammar Expr) : Grammar (Option Expr) := do
  match ← peek with
  | .sign "$" => return some (← primary)
  | .word w => if Token.isFree w then return some (← primary) else return none
  | _ => return none

/-- Reads what adds one after an operand. -/
def stepped (e : Expr) : Grammar Expr := do
  if isPlace e then
    match ← acceptOne ["++", "--"] with
    | some s => return .step false (s = "++") e
    | none => return e
  else return e

/-- Reads a name and what it is used for. -/
def named (deeper : Bool → Grammar Expr) (w : Bytes) : Grammar Expr := do
  let n ← resolve w
  let before ← kind? (← owned n)
  let isCall : Bool ←
    match n with
    | .own _ => pure false
    | .global _ => do
      let called := match ← peek with | .callable _ => true | _ => false
      pure (before.isNone && (called || (← get).functions.contains w))
  advance
  if isCall then call deeper w
  else if (← isSign "[") && w ≠ "NF".toList then
    advance
    let index ← arguments deeper (← get).tokens.length
    expect "]"
    use w n .table
    return .element n index
  else
    use w n .variable
    return .name n

/-- Reads an operand without operators around it. -/
def single (deeper : Bool → Grammar Expr) (primary : Grammar Expr) : Grammar Expr := do
  match ← here with
  | (.number x written, spot) =>
    if x.isInf then complain (spot.fault (written ++ " : decimal overflow".toList))
    advance
    return .number x
  | (.text t, _) =>
    advance
    return .text t
  | (.regex source, spot) =>
    let r ← pattern spot source
    advance
    return .regex r
  | (.sign "$", _) =>
    advance
    let e ← primary
    match e with
    | .name (.global w) => if w = "NF".toList then return .field (← stepped e) else return .field e
    | e => return .field e
  | (.sign "(", _) =>
    advance
    let es ← inParentheses deeper
    match es with
    | [e] => return .group e
    | es => if ← acceptWord "in" then return .member es (← tableName) else unexpected
  | (.sign s, _) =>
    if s = "++" || s = "--" then
      advance
      return .step true (s = "++") (← place primary)
    else unexpected
  | (.callable w, _) | (.word w, _) =>
    match Token.builtins.lookup (String.ofList w) with
    | some (f, least, most) =>
      advance
      builtinCall deeper primary w f least most
    | none =>
      if w = "getline".toList then
        advance
        let target ← readTarget primary
        if ← accept "<" then return .readFile (← primary) target
        return .readRecord target
      if !Token.isFree w then unexpected
      named deeper w
  | (_, _) => unexpected

/-- Reads an operand with the signs before it, the readers for such ones and for those
    without signs being given; in `printed` ones what is read from a command has to be in
    parentheses. -/
def signed (again primary : Grammar Expr) (printed : Bool) : Grammar Expr := do
  match ← acceptOne ["!", "-", "+"] with
  | some "!" => return .not (← again)
  | some "-" => return .negate (← again)
  | some _ => return .plus (← again)
  | none =>
    let e ← primary
    let e ← stepped e
    let e ← if ← accept "^" then pure (Expr.arithmetic .power e (← again)) else pure e
    if printed then return e else commands (← get).tokens.length e
where
  /-- Reads what reads from a command. -/
  commands : (fuel : Nat) → Expr → Grammar Expr
    | 0, e => return e
    | fuel + 1, e => do
      if ← accept "|" then
        if !(← acceptWord "getline") then unexpected
        commands fuel (.readCommand e (← readTarget primary))
      else return e

mutual

/-- Reads an expression at most `fuel` deep. -/
def expr : (fuel : Nat) → (printed : Bool) → Grammar Expr
  | 0, _ => unexpected
  | fuel + 1, printed => whole (fun p s => expr fuel p s) (fun s => operand fuel printed s) printed

/-- Reads an operand with the signs before it. -/
def operand : (fuel : Nat) → (printed : Bool) → Grammar Expr
  | 0, _ => unexpected
  | fuel + 1, printed => signed (fun s => operand fuel printed s) (fun s => primary fuel s) printed

/-- Reads an operand. -/
def primary : (fuel : Nat) → Grammar Expr
  | 0 => unexpected
  | fuel + 1 => single (fun p s => expr fuel p s) (fun s => primary fuel s)

end

/-- How deep the expressions of a program may be. -/
def depth : Grammar Nat := do
  return 4 * (← get).tokens.length + 8

/-- Reads an expression. -/
def anyExpr : Grammar Expr := do
  expr (← depth) false

/-! ### Statements -/

/-- Reads what ends a statement. -/
def terminator : Grammar Unit := do
  match ← peek with
  | .sign ";" | .newline => advance
  | .sign s => if s ≠ closing then unexpected
  | _ => unexpected

/-- Whether a statement ends here. -/
def atEnd : Grammar Bool := do
  match ← peek with
  | .sign s => return s = ";" || s = closing
  | .newline | .finish => return true
  | _ => return false

/-- Whether the arguments of a printing statement end here. -/
def atPrintEnd : Grammar Bool := do
  match ← peek with
  | .sign s => return [";", ">", ">>", "|", closing].contains s
  | .newline | .finish => return true
  | _ => return false

/-- Reads expressions that are printed, with commas between them. -/
def printedExprs : (fuel : Nat) → Grammar (List Expr)
  | 0 => return []
  | fuel + 1 => do
    let e ← expr (← depth) true
    if ← accept "," then return e :: (← printedExprs fuel) else return [e]

/-- Reads the arguments of a printing statement, perhaps in parentheses. -/
def printArguments : Grammar (List Expr) := do
  if ← atPrintEnd then return []
  let before ← get
  let inside : Option (List Expr) ←
    if ← accept "(" then do
      let es ← inParentheses fun _ => anyExpr
      if ← atPrintEnd then pure (some es) else pure none
    else pure none
  match inside with
  | some es => return es
  | none =>
    set before
    printedExprs before.tokens.length

/-- Reads where output goes. -/
def outlet : Grammar (Option (Outlet × Expr)) := do
  if ← accept ">" then return some (.file, ← anyExpr)
  else if ← accept ">>" then return some (.fileEnd, ← anyExpr)
  else if ← accept "|" then return some (.command, ← anyExpr)
  else return none

/-- Reads an expression, if there is one before the statement ends. -/
def optionalExpr : Grammar (Option Expr) := do
  if ← atEnd then return none else return some (← anyExpr)

/-- Reads a statement that leaves the record; there has to be one. -/
def leaving (what : String) (s : Statement) : Grammar Statement := do
  if !(← get).hasRecord then report ("improper use of ".toList ++ what.toList)
  return s

/-- Reads a statement that leaves a loop or a round of it; there has to be one. -/
def inOpenLoop (what : String) (s : Statement) : Grammar Statement := do
  let r ← get
  -- once something is misplaced it is not known which loops are open
  if r.loops = 0 && r.faults.isEmpty then report (what.toList ++ " statement outside of loop".toList)
  return s

/-- Reads a statement without other statements in it. -/
def simple : Grammar Statement := do
  if ← acceptWord "print" then
    let args ← printArguments
    return .print args (← outlet)
  else if ← acceptWord "printf" then
    let args ← printArguments
    if args.isEmpty then report "no arguments in call to printf".toList
    return .printf args (← outlet)
  else if ← acceptWord "next" then leaving "next" .nextRecord
  else if ← acceptWord "nextfile" then leaving "nextfile" .nextFile
  else if ← acceptWord "exit" then return .exit (← optionalExpr)
  else if ← acceptWord "return" then
    if (← get).owner.isNone then report "return outside function body".toList
    return .giveBack (← optionalExpr)
  else if ← acceptWord "break" then inOpenLoop "break" .leaveLoop
  else if ← acceptWord "continue" then inOpenLoop "continue" .nextRound
  else if ← acceptWord "delete" then
    let n ← tableName
    if ← accept "[" then
      let index ← arguments (fun _ => anyExpr) (← get).tokens.length
      expect "]"
      return .delete n index
    else return .clear n
  else return .expr (← anyExpr)

/-- Reads something in a loop. -/
def inLoop {α : Type} (body : Grammar α) : Grammar α := do
  modify fun s => { s with loops := s.loops + 1 }
  let result ← body
  modify fun s => { s with loops := s.loops - 1 }
  return result

/-- Reads a condition in parentheses. -/
def condition : Grammar Expr := do
  expect "("
  let e ← anyExpr
  expect ")"
  return e

/-- Reads statements up to a closing bracket. -/
def statements (statement : Grammar Statement) : (fuel : Nat) → Grammar (List Statement)
  | 0 => return []
  | fuel + 1 => do
    if ← accept closing then return []
    match ← peek with
    | .finish => unexpected
    | _ =>
      let s ← statement
      return s :: (← statements statement fuel)

/-- Reads a statement; something misplaced in it is skipped together with the rest of it. -/
def recovering (read : Grammar Statement) : Grammar Statement := do
  let loops := (← get).loops
  tryCatch read fun stop =>
    match stop with
    | .ended => throw .ended
    | .misplaced => do
      modify fun s => { s with loops := loops }
      skipStatement ((← get).tokens.length + 1)
      return .block []

/-- Reads the head of a loop that counts or goes through a table, and its body. -/
def forStatement (body : Grammar Statement) : Grammar Statement := do
  expect "("
  let start : List Token := ((← get).tokens.take 4).map (·.1)
  match start with
  | [.word w, .word i, .word t, .sign ")"] =>
    if i = "in".toList && Token.isFree w && Token.isFree t then
      let target ← resolve w
      use w target .variable
      advance
      advance
      let n ← tableName
      expect ")"
      return .forEach (.name target) n (← inLoop body)
    else counting
  | _ => counting
where
  /-- Reads a loop that counts. -/
  counting : Grammar Statement := do
    let first : Option Statement ← if ← isSign ";" then pure none else pure (some (← simple))
    expect ";"
    let c : Option Expr ← if ← isSign ";" then pure none else pure (some (← anyExpr))
    expect ";"
    let after : Option Statement ← if ← isSign ")" then pure none else pure (some (← simple))
    expect ")"
    return .loop first c after (← inLoop body)

/-- Reads the condition after the body of a loop. When there is none, what is there is
    skipped as if it were the body. -/
def untilCondition : (fuel : Nat) → Grammar Expr
  | 0 => unexpected
  | fuel + 1 =>
    tryCatch (do
      if !(← acceptWord "while") then unexpected
      let c ← condition
      terminator
      return c) fun stop =>
    match stop with
    | .ended => throw .ended
    | .misplaced => do
      if ← isSign closing then advance
      skipStatement ((← get).tokens.length + 1)
      untilCondition fuel

/-- Reads a statement at most `fuel` deep. -/
def statement : (fuel : Nat) → Grammar Statement
  | 0 => unexpected
  | fuel + 1 => recovering do
    let body : Grammar Statement := do
      skipNewlines
      statement fuel
    if ← accept opening then
      return .block (← statements (statement fuel) (← get).tokens.length)
    else if ← acceptWord "if" then
      let c ← condition
      let a ← body
      if ← acceptWord "else" then return .conditional c a (some (← body))
      else return .conditional c a none
    else if ← acceptWord "while" then
      let c ← condition
      return .whileLoop c (← inLoop body)
    else if ← acceptWord "do" then
      let s ← inLoop body
      return .doWhile s (← untilCondition (← get).tokens.length)
    else if ← acceptWord "for" then forStatement body
    else if ← atEnd then
      terminator
      return .block []
    else
      let s ← simple
      terminator
      return s

/-- Reads statements in brackets. -/
def block : Grammar Statement := do
  expect opening
  return .block (← statements (statement (← depth)) (← get).tokens.length)

/-! ### Programs -/

/-- Reads the parameters of a function. -/
def parameters (f : Bytes) : (fuel : Nat) → Grammar (List Bytes)
  | 0 => return []
  | fuel + 1 => do
    match ← peek with
    | .word w =>
      if !Token.isFree w then unexpected
      if w = f then
        report "function parameter cannot be the function".toList
        unexpected
      advance
      if ← accept "," then
        let rest ← parameters f fuel
        if rest.contains w then report (w ++ " is duplicated in argument list".toList)
        return w :: rest
      else return [w]
    | _ => unexpected

/-- Reads a function. -/
def function (known : List Bytes) : Grammar Function := do
  match ← peek with
  | .word w | .callable w =>
    if !Token.isFree w then unexpected
    match ← kind? (none, .global w) with
    | some k => report ("illegal reference to ".toList ++ k.spelled ++ [' '] ++ w)
    | none => if known.contains w then report ("redefinition of ".toList ++ w)
    advance
    expect "("
    let names ← if ← isSign ")" then pure [] else parameters w (← get).tokens.length
    expect ")"
    skipNewlines
    modify fun s => { s with owner := some w, parameters := names, functions := w :: s.functions }
    learnFromCalls w
    let body ← block
    modify fun s => { s with owner := none, parameters := [] }
    return ⟨w, names, body⟩
  | _ => unexpected

/-- Prints the record. -/
def printRecord : Statement :=
  .print [] none

/-- Reads a rule. -/
def rule : Grammar Rule := do
  let withRecord (has : Bool) : Grammar Unit := modify fun s => { s with hasRecord := has }
  if ← acceptWord "BEGIN" then
    withRecord false
    return ⟨.start, ← block⟩
  else if ← acceptWord "END" then
    withRecord false
    return ⟨.finish, ← block⟩
  else
    withRecord true
    if ← isSign opening then return ⟨.always, ← block⟩
    let a ← anyExpr
    let selector : Selector ←
      if ← accept "," then do
        let b ← anyExpr
        let s ← get
        set { s with ranges := s.ranges + 1 }
        pure (.range s.ranges a b)
      else pure (.those a)
    if ← isSign opening then return ⟨selector, ← block⟩
    terminator
    return ⟨selector, printRecord⟩

/-- Reads a rule or a function. -/
def item (p : Program) : Grammar Program := do
  if (← isWord "function") || (← isWord "func") then
    advance
    modify fun s => { s with hasRecord := false }
    return { p with functions := p.functions ++ [← function (p.functions.map (·.name))] }
  else return { p with rules := p.rules ++ [← rule] }

/-- Reads rules and functions. Something misplaced is skipped up to the statements after
    it. -/
def items : (fuel : Nat) → Program → Grammar Program
  | 0, p => return p
  | fuel + 1, p => do
    match ← peek with
    | .finish => return p
    | _ =>
      let p ← tryCatch (item p) fun stop =>
        match stop with
        | .ended => throw .ended
        | .misplaced => do
          modify fun s => { s with owner := none, parameters := [] }
          skipToBlock ((← get).tokens.length + 1)
          modify fun s => { s with quiet := 3 }
          let _ ← block
          return p
      items fuel p

/-! ### Names of tables -/

/-- What is known about names and parameters from what is passed on, in at most `rounds`
    steps. -/
def spread (calls : List Call) : (rounds : Nat) → List (Owned × Kind) → List (Owned × Kind)
  | 0, kinds => kinds
  | rounds + 1, kinds =>
    let more : List (Owned × Kind) := calls.flatMap fun c =>
      c.args.zipIdx.flatMap fun (a, i) =>
        match a with
        | none => []
        | some given =>
          let taken : Owned := (some c.function, .own i)
          match kinds.lookup given, kinds.lookup taken with
          | some k, none => [(taken, k)]
          | none, some k => [(given, k)]
          | _, _ => []
    if more.isEmpty then kinds else spread calls rounds (kinds ++ more)

/-- What is wrong with a call, the last argument first. -/
def faultsOf (functions : List Function) (kinds : List (Owned × Kind)) (c : Call) : List Fault :=
  let parameters := ((functions.find? fun f => f.name = c.function).map (·.parameters)).getD []
  if parameters.length < c.args.length then
    [c.spot.fault ("too many arguments in call to ".toList ++ c.function)]
  else
    c.args.zipIdx.reverse.filterMap fun (a, i) =>
      let given : Option Kind := match a with | some n => kinds.lookup n | none => some .variable
      match given, kinds.lookup (some c.function, .own i) with
      | some g, some t =>
        if g = t then none
        else
          some (c.spot.fault ("type error in arg(".toList ++ Bytes.ofNat (i + 1) ++ ") in call to ".toList ++
            c.function ++ " (actual local ".toList ++ g.spelled ++ " vs local ".toList ++ t.spelled ++ [')']))
      | _, _ => none

/-- The names that always stand for something. -/
def givenKinds : List (Owned × Kind) :=
  let vars := ["NR", "FNR", "NF", "FS", "OFS", "ORS", "RS", "RSTART", "RLENGTH", "SUBSEP", "CONVFMT", "OFMT",
    "FILENAME", "ARGC"]
  vars.map (fun v => ((none, .global v.toList), .variable)) ++
    ["ENVIRON", "ARGV"].map fun t => ((none, .global t.toList), .table)

end Grammar

/-- The program that texts stand for, which may be in files; some variables are known
    already. Otherwise everything that is wrong. -/
def Program.read (texts : List (Option Bytes × Bytes)) (vars : List Bytes) : Except (List Fault) Program :=
  let tokens := Token.scan texts
  let known := vars.map fun v => ((none, Name.global v), Kind.variable)
  let all : Grammar Program := do
    Grammar.start
    let p ← Grammar.items tokens.length {}
    if !(← get).faults.isEmpty then throw .ended
    let spot : Spot := (tokens.getLast?.map (·.2)).getD ⟨none, 1⟩
    let s ← get
    for c in s.calls.reverse do
      if !(p.functions.any fun f => f.name = c.function) then
        Grammar.complain (spot.fault ("function ".toList ++ c.function ++ " never defined".toList))
    let kinds := Grammar.spread s.calls (2 * s.calls.length + 1) s.kinds
    for c in s.calls.reverse do
      if p.functions.any fun f => f.name = c.function then
        (Grammar.faultsOf p.functions kinds c).forM Grammar.complain
    let tables := kinds.filterMap fun (n, k) => if k = .table then some n else none
    return { p with tables := tables.eraseDups }
  let (result, s) := all.run.run { tokens := tokens, kinds := Grammar.givenKinds ++ known }
  match result with
  | .ok p => if s.faults.isEmpty then .ok p else .error s.faults.reverse
  | .error _ => .error s.faults.reverse

end Lifelines.Awk
