import Lifelines.Awk.Machine

/-!
# Evaluating programs

Expressions have values, statements change the state. A loop goes on for as long as
its condition holds, functions may call themselves, and the depth of it all is
limited.

* `Evaluate.expr`, `Evaluate.statement`;
* `Evaluate.program`: the rules for the start, the records and the end.
-/

namespace Lifelines.Awk

namespace Evaluate

/-! ### Operations -/

/-- The rest of a division whose quotient is rounded toward zero. -/
def remainder (x y : Float) : Float :=
  if x.isNaN || y.isNaN || x.isInf || y == 0 then 0 / 0
  else if y.isInf then x
  else
    let a := Decimal.Fraction.ofFloat x
    let b := Decimal.Fraction.ofFloat y
    Token.ofFormatNumber (Decimal.isNegative x) (.finite ⟨a.num * b.den % (b.num * a.den), a.den * b.den⟩)

/-- An operation on numbers. -/
def operate (op : Arithmetic) (x y : Float) : Float :=
  match op with
  | .add => x + y
  | .subtract => x - y
  | .multiply => x * y
  | .divide => x / y
  | .remainder => remainder x y
  | .power => Float.pow x y

/-- A number with its places after the point taken away. -/
def whole (x : Float) : Float :=
  if x < 0 then x.ceil else x.floor

/-- A truth value. -/
def truth (b : Bool) : Value :=
  .number (if b then 1 else 0)

/-- A part of a text; a start before the first character makes it longer. -/
def part (text : Bytes) (start : Float) (length : Option Float) : Bytes :=
  let first := toInteger start
  match length with
  | none => text.drop (first.toNat - 1)
  | some n =>
    let n := toInteger n
    let n := if first < 1 then n - first else n
    (text.drop (first.toNat - 1)).take n.toNat

/-- The place of a text in another, counted from one. -/
def placeOf (text part : Bytes) : Nat :=
  go text 1
where
  /-- Looks from a place on. -/
  go : Bytes → Nat → Nat
    | [], n => if part.isEmpty then n else 0
    | c :: rest, n => if part.isPrefixOf (c :: rest) then n else go rest (n + 1)

/-- What a match is replaced by: an ampersand stands for the match, unless there is an odd
    number of backslashes before it. -/
def replacement (matched : Bytes) : (fuel : Nat) → Bytes → Bytes
  | 0, text => text
  | _, [] => []
  | fuel + 1, c :: rest =>
    if c = '\\' then
      let slashes := (c :: rest).takeWhile (· = '\\')
      let after := (c :: rest).drop slashes.length
      match after with
      | '&' :: after =>
        slashes.drop (slashes.length - slashes.length / 2) ++
          (if slashes.length % 2 = 1 then ['&'] else matched) ++ replacement matched fuel after
      | after => slashes ++ replacement matched fuel after
    else if c = '&' then matched ++ replacement matched fuel rest
    else c :: replacement matched fuel rest

/-- Replaces the first match or all matches; gives how many there are. -/
def substitute (r : Pattern.Regex) (all : Bool) (by' text : Bytes) : Bytes × Nat :=
  let subject := text.toArray
  let found := if all then r.all subject else (r.find? subject 0).toList
  (go subject 0 found, found.length)
where
  /-- The text from a place on. -/
  go (subject : Array Char) (start : Nat) : List Pattern.Regex.Found → Bytes
    | [] => Pattern.Regex.Found.part subject start subject.size
    | m :: rest =>
      Pattern.Regex.Found.part subject start m.start ++ replacement (m.text subject) (by'.length + 1) by' ++
        go subject m.stop rest

/-- The next number that looks like one of chance. -/
def nextSeed (seed : Nat) : Nat :=
  (seed * 1103515245 + 12345) % Nat.pow 2 31

/-! ### Places -/

/-- Something that can be assigned to, found out once. -/
inductive Place where
  | global (n : Bytes)
  | own (i : Nat)
  | field (n : Nat)
  | element (id : Nat) (key : Bytes)

/-- The value at a place. -/
def Place.read : Place → Run Value
  | global n => do return ((← Run.machine).vars.lookup n).getD .unset
  | own i => do
    match (← Run.machine).frame[i]? with
    | some (.value v) => return v
    | _ => return .unset
  | field n => Run.field n
  | element id key => Run.element id key

/-- Sets the value at a place. -/
def Place.write : Place → Value → Run Unit
  | global n, v => Run.set n v
  | own i, v => Run.change fun m => { m with frame := m.frame.setIfInBounds i (.value v) }
  | field n, v => Run.setField n v
  | element id key, v => do
    let t ← Run.table id
    Run.setTable id (t.set key v)

/-- Repeats something that answers whether it goes on. -/
def repeatWhile (round : Run Bool) : (rounds : Nat) → Run Unit
  | 0 => return
  | rounds + 1 => do
    if ← round then repeatWhile round rounds

/-- How often something is repeated at most. -/
def roundLimit : Nat := 100000000

/-- Runs the body of a loop; answers whether the loop goes on. -/
def roundOf (body : Run Unit) : Run Bool := fun m => do
  match ← body m with
  | (.ok (), m) | (.error .nextRound, m) => return (.ok true, m)
  | (.error .leaveLoop, m) => return (.ok false, m)
  | (.error e, m) => return (.error e, m)

/-- Runs the body of a function; the parameters of the one that calls it come back. -/
def called (body : Run Unit) (frame : Array Cell) : Run Value := fun m => do
  let (result, m) ← body m
  let m := { m with frame := frame }
  match result with
  | .ok () => return (.ok .unset, m)
  | .error (.giveBack v) => return (.ok v, m)
  | .error e => return (.error e, m)

/-- Does something with each of some texts, for as long as it answers that it goes on. -/
def rounds (round : Bytes → Run Bool) : List Bytes → Run Unit
  | [] => return
  | key :: rest => do
    if ← round key then rounds round rest

/-- The name in an expression that is only a name. -/
def nameOf? : Expr → Option Name
  | .name n => some n
  | _ => none

/-- Whether a name stands for a table. -/
def isTable (n : Name) : Run Bool := do
  let m ← Run.machine
  match n with
  | .global name => return (m.named.lookup name).isSome || m.program.tables.contains (none, n)
  | .own i =>
    match m.frame[i]? with
    | some (.table _) => return true
    | _ => return false

/-- The key of several values. -/
def keyOf (values : List Value) : Run Bytes := do
  let texts ← values.mapM Run.textOf
  match texts with
  | [t] => return t
  | texts => return Bytes.join (← Run.textIn "SUBSEP") texts

/-- A value as it is printed. -/
def printedText (v : Value) : Run Bytes := do
  match v with
  | .text t | .input t => return t
  | .unset => return []
  | v => return v.toText (← Run.textIn "OFMT")

/-- The values that a format writes. -/
def format (caller : String) (values : List Value) : Run Bytes := do
  let template ← Run.textOf (values.headD .unset)
  let result := formatted (← Run.numberFormat) caller template (values.drop 1)
  match result.complaint with
  | none => return result.text
  | some complaint =>
    if caller = "printf" then Run.print result.text
    Run.runFault complaint

/-- Where what is printed goes. -/
def send (outlet : Option (Outlet × Bytes)) (text : Bytes) : Run Unit :=
  match outlet with
  | none => Run.print text
  | some (kind, name) => Run.write kind name text

/-- A function of one number. -/
def ofNumber? (f : Builtin) : Option (Float → Float) :=
  match f with
  | .sin => some Float.sin
  | .cos => some Float.cos
  | .exp => some Float.exp
  | .log => some Float.log
  | .sqrt => some Float.sqrt
  | .int => some whole
  | _ => none

/-- The separator that is given for splitting a text. -/
def givenSeparator (value : Option (Pattern.Regex ⊕ Value)) : Run Separator := do
  match value with
  | none => Run.separator "FS"
  | some (.inl r) => return .pattern r
  | some (.inr v) =>
    match Separator.ofText (← Run.textOf v) with
    | .ok s => return s
    | .error complaint => Run.runFault complaint

/-! ### Expressions and statements -/

/-- Calls a function that is always there and looks at nothing but the values of its
    arguments. -/
def simpleCall (ps : Programs) (f : Builtin) (args : List Value) : Run Value := do
  let number (i : Nat) : Float := (args.getD i .unset).toNumber
  let text (i : Nat) : Run Bytes := Run.textOf (args.getD i .unset)
  match f with
  | .substr => return .text (part (← text 0) (number 1) (if args.length = 3 then some (number 2) else none))
  | .index => return .number (Float.ofNat (placeOf (← text 0) (← text 1)))
  | .sprintf => return .text (← format "sprintf" args)
  | .toUpper => return .text (Bytes.toUpper (← text 0))
  | .toLower => return .text (Bytes.toLower (← text 0))
  | .atan2 => return .number (Float.atan2 (number 0) (number 1))
  | .rand =>
    let seed := nextSeed (← Run.machine).seed
    Run.change fun m => { m with seed := seed }
    return .number (Float.ofNat seed / 2147483648.0)
  | .srand =>
    let before := (← Run.machine).seed
    Run.change fun m => { m with seed := (toInteger (number 0)).natAbs }
    return .number (Float.ofNat before)
  | .system =>
    Run.flush
    let status ← Run.command ps "sh" (← text 0) id
    return .number (Float.ofInt (Run.statusNumber status))
  | .close => return .number (Float.ofInt (← Run.close ps (← text 0)))
  | .flush =>
    Run.flush
    if args.isEmpty || (← Run.isWritten (← text 0)) then return .number 0 else return .number (-1)
  | .time => return .number 0
  | f =>
    match ofNumber? f with
    | some g => return .number (g (number 0))
    | none => return .unset

/-- What has come of reading a record: it is put somewhere, and the value says how it
    went. -/
def received (result : Except Int Bytes) (store : Bytes → Run Unit) : Run Value := do
  match result with
  | .error n => return .number (Float.ofInt n)
  | .ok record =>
    store record
    return .number 1

mutual

/-- The value of an expression at most `fuel` deep. -/
def expr (ps : Programs) : (fuel : Nat) → Expr → Run Value
  | 0, _ => Run.runFault "function call nesting too deep".toList
  | fuel + 1, e => do
    let value (e : Expr) : Run Value := expr ps fuel e
    let number (e : Expr) : Run Float := do return (← expr ps fuel e).toNumber
    let text (e : Expr) : Run Bytes := do Run.textOf (← expr ps fuel e)
    let place (e : Expr) : Run Place := placeOf? ps fuel e
    let pattern (e : Expr) : Run Pattern.Regex := do
      match e with
      | .regex r => return r
      | e => Run.pattern (← text e)
    match e with
    | .number x => return .number x
    | .text t => return .text t
    | .group e => value e
    | .regex r => do return truth (r.occursIn (← Run.textOf (← Run.field 0)))
    | .name _ | .field _ | .element _ _ => do (← place e).read
    | .assign op target e => do
      -- the place is found out after the value
      let v ← value e
      let p ← place target
      let v : Value ←
        match op with
        | none => pure v
        | some op => do pure (.number (operate op (← p.read).toNumber v.toNumber))
      p.write v
      return v
    | .step newValue up target => do
      let p ← place target
      let before := (← p.read).toNumber
      let after := if up then before + 1 else before - 1
      p.write (.number after)
      return .number (if newValue then after else before)
    | .negate e => do return .number (-(← number e))
    | .plus e => do return .number (← number e)
    | .not e => do return truth (!(← value e).isTrue)
    | .arithmetic op a b => do
      let x ← number a
      return .number (operate op x (← number b))
    | .join a b => do
      let s ← text a
      return .text (s ++ (← text b))
    | .compare op a b => do
      let x ← value a
      let y ← value b
      return truth (Value.compare (← Run.numberFormat) op x y)
    | .fits wanted a b => do
      let s ← text a
      let r ← pattern b
      return truth (r.occursIn s = wanted)
    | .member index n => do
      let key ← keyOf (← index.mapM value)
      let t ← Run.table (← Run.tableOf n)
      return truth (t.get? key).isSome
    | .both a b => do
      if (← value a).isTrue then return truth (← value b).isTrue else return truth false
    | .either a b => do
      if (← value a).isTrue then return truth true else return truth (← value b).isTrue
    | .choose c a b => do
      if (← value c).isTrue then value a else value b
    | .readRecord target => do
      match ← Run.readMain (← Run.fileLimit) with
      | none => return .number 0
      | some record =>
        match target with
        | none => Run.setRecord (.input record)
        | some t => (← place t).write (.input record)
        return .number 1
    | .readFile file target => do
      let name ← text file
      received (← Run.readFile name) fun record => do
        match target with
        | none => Run.setRecord (.input record)
        | some t => (← place t).write (.input record)
    | .readCommand command target => do
      let name ← text command
      received (← Run.readCommand ps name) fun record => do
        match target with
        | none => Run.setRecord (.input record)
        | some t => (← place t).write (.input record)
    | .builtin .length [.name n] => do
      if ← isTable n then
        let t ← Run.table (← Run.tableOf n)
        return .number (Float.ofNat t.entries.length)
      else return .number (Float.ofNat (← text (.name n)).length)
    | .builtin .length args => do
      let t ← Run.textOf (← match args with | e :: _ => value e | [] => Run.field 0)
      return .number (Float.ofNat t.length)
    | .builtin .split (e :: .name n :: rest) => do
      let t ← text e
      let s : Option (Pattern.Regex ⊕ Value) ←
        match rest with
        | .regex r :: _ => pure (some (.inl r))
        | e :: _ => do pure (some (.inr (← value e)))
        | [] => pure none
      let pieces := (← givenSeparator s).split t
      Run.fillTable (← Run.tableOf n) pieces
      return .number (Float.ofNat pieces.length)
    | .builtin .matchPlace (e :: p :: _) => do
      let subject := (← text e).toArray
      let (start, length) : Nat × Int :=
        match (← pattern p).find? subject 0 with
        | some m => (m.start + 1, (m.stop - m.start : Nat))
        | none => (0, -1)
      Run.set "RSTART".toList (.number (Float.ofNat start))
      Run.set "RLENGTH".toList (.number (Float.ofInt length))
      return .number (Float.ofNat start)
    | .builtin f (p :: by' :: rest) => do
      if f = .sub || f = .gsub then
        let r ← pattern p
        let by' ← text by'
        let target := rest.headD (.field (.number 0))
        let (result, n) := substitute r (f = .gsub) by' (← text target)
        if 0 < n then
          match target with
          | .name _ | .field _ | .element _ _ => (← place target).write (.text result)
          | _ => pure ()
        return .number (Float.ofNat n)
      else simpleCall ps f (← (p :: by' :: rest).mapM value)
    | .builtin f args => do simpleCall ps f (← args.mapM value)
    | .call f args => do
      let m ← Run.machine
      match m.program.functions.find? fun g => g.name = f with
      | none => return .unset
      | some g =>
        let given ← args.zipIdx.mapM fun (e, i) => do
          match m.program.tables.contains (some f, .own i), nameOf? e with
          | true, some n => do return Cell.table (← Run.tableOf n)
          | _, _ => do return Cell.value (← value e)
        let own := (List.range (g.parameters.length - given.length)).map fun _ => Cell.value .unset
        -- the arguments may have changed the parameters of the function at work
        let frame := (← Run.machine).frame
        Run.change fun m => { m with frame := (given ++ own).toArray }
        called (statement ps fuel g.body) frame

/-- The place that an expression means. -/
def placeOf? (ps : Programs) : (fuel : Nat) → Expr → Run Place
  | 0, _ => Run.runFault "function call nesting too deep".toList
  | fuel + 1, e => do
    match e with
    | .name (.global n) => return .global n
    | .name (.own i) => return .own i
    | .field e => return .field (← Run.fieldNumber (← expr ps fuel e))
    | .element n index =>
      let key ← keyOf (← index.mapM fun e => expr ps fuel e)
      return .element (← Run.tableOf n) key
    | _ => return .global []

/-- Runs a statement at most `fuel` deep. -/
def statement (ps : Programs) : (fuel : Nat) → Statement → Run Unit
  | 0, _ => Run.runFault "function call nesting too deep".toList
  | fuel + 1, s => do
    let value (e : Expr) : Run Value := expr ps fuel e
    let run (s : Statement) : Run Unit := statement ps fuel s
    let holds (e : Expr) : Run Bool := do return (← expr ps fuel e).isTrue
    let outletOf (o : Option (Outlet × Expr)) : Run (Option (Outlet × Bytes)) := do
      match o with
      | none => return none
      | some (kind, e) => return some (kind, ← Run.textOf (← value e))
    match s with
    | .expr e => do
      let _ ← value e
    | .print args o => do
      let values ← args.mapM value
      let o ← outletOf o
      let texts ←
        if values.isEmpty then do pure [← Run.textOf (← Run.field 0)]
        else values.mapM printedText
      send o (Bytes.join (← Run.textIn "OFS") texts ++ (← Run.textIn "ORS"))
    | .printf args o => do
      let values ← args.mapM value
      let o ← outletOf o
      send o (← format "printf" values)
    | .conditional c a b => do
      if ← holds c then run a
      else if let some b := b then run b
    | .whileLoop c body =>
      repeatWhile (do if ← holds c then roundOf (run body) else return false) roundLimit
    | .doWhile body c =>
      repeatWhile (do if ← roundOf (run body) then holds c else return false) roundLimit
    | .loop first c after body => do
      if let some s := first then run s
      let goesOn : Run Bool := match c with | some c => holds c | none => return true
      repeatWhile (do
        if ← goesOn then
          if ← roundOf (run body) then
            if let some s := after then run s
            return true
          else return false
        else return false) roundLimit
    | .forEach target n body => do
      let t ← Run.table (← Run.tableOf n)
      let p ← placeOf? ps fuel target
      rounds (fun key => do
        p.write (.input key)
        roundOf (run body)) t.keys
    | .block body => body.forM run
    | .nextRecord => throw .nextRecord
    | .nextFile => throw .nextFile
    | .exit e => do
      if let some e := e then
        let n := toInteger (← value e).toNumber
        Run.change fun m => { m with code := (n % 256).toNat }
      throw .exit
    | .giveBack e => do
      match e with
      | some e => throw (.giveBack (← value e))
      | none => throw (.giveBack .unset)
    | .leaveLoop => throw .leaveLoop
    | .nextRound => throw .nextRound
    | .delete n index => do
      let key ← keyOf (← index.mapM value)
      let id ← Run.tableOf n
      Run.setTable id ((← Run.table id).erase key)
    | .clear n => do Run.setTable (← Run.tableOf n) {}

end

/-! ### Programs -/

/-- How deep a program may be at work. -/
def depthLimit : Nat := 100000

/-- Catches what leaves a computation. -/
def attempt {α : Type} (body : Run α) : Run (Except Leave α) := fun m => do
  let (result, m) ← body m
  return (.ok result, m)

/-- Whether a rule is for the record. -/
def selects (ps : Programs) (s : Selector) : Run Bool := do
  let holds (e : Expr) : Run Bool := do return (← expr ps depthLimit e).isTrue
  match s with
  | .start | .finish => return false
  | .always => return true
  | .those e => holds e
  | .range n a b =>
    let isOpen := (← Run.machine).ranges.contains n
    if !isOpen then
      if !(← holds a) then return false
    let closes ← holds b
    Run.change fun m =>
      let others := m.ranges.filter (· ≠ n)
      { m with ranges := if closes then others else n :: others }
    return true

/-- Runs the rules for the record. -/
def applyRules (ps : Programs) (rules : List Rule) : Run Unit :=
  rules.forM fun r => do
    if ← selects ps r.selector then statement ps depthLimit r.body

/-- Reads the records and runs the rules for them. -/
def readRecords (ps : Programs) (rules : List Rule) : Run Unit :=
  repeatWhile (do
    match ← Run.readMain (← Run.fileLimit) with
    | none => return false
    | some record =>
      Run.setRecord (.input record)
      match ← attempt (applyRules ps rules) with
      | .ok () | .error .nextRecord => return true
      | .error .nextFile =>
        Run.change fun m => { m with main := none }
        return true
      | .error e => throw e) roundLimit

/-- Runs the rules before the first record, those for records and those after the last
    one. -/
def program (ps : Programs) (p : Program) : Run Unit := do
  let bodies (wanted : Selector → Bool) : List Statement :=
    (p.rules.filter fun r => wanted r.selector).map (·.body)
  let isStart : Selector → Bool := fun s => match s with | .start => true | _ => false
  let isFinish : Selector → Bool := fun s => match s with | .finish => true | _ => false
  let rules := p.rules.filter fun r => !isStart r.selector && !isFinish r.selector
  let first ← attempt do
    (bodies isStart).forM (statement ps depthLimit)
    if !rules.isEmpty || !(bodies isFinish).isEmpty then readRecords ps rules
  match first with
  | .ok () | .error .exit => (bodies isFinish).forM (statement ps depthLimit)
  | .error e => throw e

/-- Hands over what has been written for commands, and lets out what is printed. -/
def finish (ps : Programs) : Run Unit := do
  for (name, drain) in (← Run.machine).drains do
    match drain with
    | .command pieces =>
      let _ ← Run.feed ps name pieces
    | .channel _ => pure ()
  Run.flush

end Evaluate

end Lifelines.Awk
