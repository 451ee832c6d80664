import Lifelines.Pattern.Glob
import Lifelines.Pattern.RegexText
import Lifelines.Text.Conversion
import Lifelines.Utility.Permission

/-!
# Conditions on entries

The words after the starting places of a search are a condition: steps, each a test
or something that is done, with operators between them. A search whose condition
does nothing prints the entries that meet it.

* `Step`, `Condition`: what is checked and done;
* `SearchPlan`: what a search is to do;
* `readPlan`: the plan that some words stand for.
-/

namespace Lifelines.Utility.Find

/-- A number, or those above or below it. -/
inductive Measure where
  | exactly (n : Nat)
  | above (n : Nat)
  | below (n : Nat)

/-- Whether a number is meant. -/
def Measure.holds : Measure → Nat → Bool
  | exactly n, k => k = n
  | above n, k => n < k
  | below n, k => k < n

/-- Reads a measure; a sign says that numbers above or below are meant. -/
def Measure.read? : Bytes → Option Measure
  | '+' :: digits => (Bytes.toNat? digits).map above
  | '-' :: digits => (Bytes.toNat? digits).map below
  | digits => (Bytes.toNat? digits).map exactly

/-- Which permissions are looked for. -/
inductive Sought where
  /-- These and no others. -/
  | these (mode : Nat)
  /-- All of these. -/
  | allOf (mode : Nat)
  /-- Some of these. -/
  | someOf (mode : Nat)

/-- Whether permissions are those that are looked for. -/
def Sought.holds : Sought → Nat → Bool
  | these m, mode => mode = m
  | allOf m, mode => mode &&& m = m
  | someOf m, mode => m = 0 || mode &&& m ≠ 0

/-- A piece of a format. -/
inductive Piece where
  | text (t : Bytes)
  | field (c : Conversion)
  /-- The output ends. -/
  | stop

/-- What is checked or done with an entry. -/
inductive Step where
  | always (result : Bool)
  | name (fold : Bool) (pattern : Bytes)
  | path (fold : Bool) (pattern : Bytes)
  | regex (r : Pattern.Regex)
  | kind (letters : List Char)
  | empty
  | size (m : Measure) (unit : Nat)
  | permission (s : Sought)
  | executable
  /-- The number of links. -/
  | links (m : Measure)
  /-- Prints the path, and after it a text. -/
  | print (ending : Bytes)
  | printf (pieces : List Piece)
  /-- Runs a program, perhaps in the directory of the entry. -/
  | execute (inPlace : Bool) (words : List Bytes)
  /-- Gathers paths for a program that is run at the end. -/
  | gather (number : Nat) (words : List Bytes)
  | delete
  | prune
  | quit

/-- Whether a step does something instead of printing. -/
def Step.acts : Step → Bool
  | print _ | printf _ | execute _ _ | gather _ _ | delete => true
  | _ => false

/-- A condition. -/
inductive Condition where
  | step (s : Step)
  | not (c : Condition)
  | and (a b : Condition)
  | or (a b : Condition)
  /-- Both in turn, the second one counting. -/
  | next (a b : Condition)

/-- What a search is to do. -/
structure SearchPlan where
  places : List Bytes
  condition : Condition
  minDepth : Nat := 0
  maxDepth : Option Nat := none
  /-- Whether what is in a directory comes before it. -/
  contentsFirst : Bool := false
  /-- The words of the programs that are run at the end. -/
  gathered : List (Nat × List Bytes) := []
  /-- What is said in advance. -/
  warnings : List Bytes := []

/-! ### Words -/

/-- An operator with two sides. -/
inductive Operator where
  | next
  | or
  | and
  deriving DecidableEq

/-- How tightly an operator binds. -/
def Operator.strength : Operator → Nat
  | next => 1
  | or => 2
  | and => 3

/-- A word of a condition with all that belongs to it. -/
inductive Sign where
  | step (s : Step)
  | not (word : Bytes)
  | operator (o : Operator) (word : Bytes)
  /-- A parenthesis; `made` says that nobody has written it. -/
  | opened (made : Bool)
  | closed (made : Bool)

/-- Whether a word begins or continues a condition. -/
def isConditionWord (first : Bool) : Bytes → Bool
  | '-' :: _ :: _ => true
  | [c] => c = '(' || c = '!' || (!first && (c = ')' || c = ','))
  | _ => false

/-- What is known while the words are read. -/
structure Draft where
  signs : List Sign := []
  /-- Which paths lead somewhere. -/
  isThere : Bytes → Bool
  /-- What is wrong with the search path, if programs are run in other directories. -/
  pathFault : Option Bytes
  style : Pattern.RegexStyle := { escapes := .plain }
  plan : SearchPlan

/-- Computations that read words; a fault is told in lines. -/
abbrev Reader := StateT Draft (Except (List Bytes))

/-- Gives up. -/
def fault {α : Type} (text : Bytes) : Reader α :=
  throw [text]

/-- A word in the quotes of a complaint. -/
def ticked (word : Bytes) : Bytes :=
  '\x60' :: word ++ ['\'']

/-- The pieces of a format. -/
def formatPieces : (fuel : Nat) → Bytes → Except Bytes (List Piece × List Bytes)
  | 0, _ | _, [] => .ok ([], [])
  | fuel + 1, '\\' :: rest => do
    let octal := (rest.take 3).takeWhile fun c => '0' ≤ c && c ≤ '7'
    if !octal.isEmpty then
      let n := octal.foldl (fun n c => n * 8 + (c.toNat - '0'.toNat)) 0
      let (pieces, warnings) ← formatPieces fuel (rest.drop octal.length)
      return (.text [Char.ofNat (n % 256)] :: pieces, warnings)
    match rest with
    | [] => return ([.text ['\\']], ["escape ".toList ++ ticked ['\\'] ++ " followed by nothing at all".toList])
    | 'c' :: _ => return ([.stop], [])
    | c :: rest =>
      let (pieces, warnings) ← formatPieces fuel rest
      let known : List (Char × Char) := [('a', '\x07'), ('b', '\x08'), ('f', '\x0c'), ('n', '\n'), ('r', '\r'),
        ('t', '\t'), ('v', '\x0b'), ('\\', '\\')]
      match known.lookup c with
      | some d => return (.text [d] :: pieces, warnings)
      | none => return (.text ['\\', c] :: pieces, ("unrecognized escape ".toList ++ ticked ['\\', c]) :: warnings)
  | fuel + 1, '%' :: rest => do
    match rest with
    | [] => .error "error: % at end of format string".toList
    | '%' :: rest =>
      let (pieces, warnings) ← formatPieces fuel rest
      return (.text ['%'] :: pieces, warnings)
    | _ =>
      match Conversion.readPast? [] rest with
      | none => .error "error: the format directive \x60% ' is reserved for future use".toList
      | some (c, after) =>
        let (pieces, warnings) ← formatPieces fuel after
        if "abcdDfFgGhHiklmMnpPsSuUyYZ".toList.contains c.letter then return (.field c :: pieces, warnings)
        else
          return (.text ['%', c.letter] :: pieces,
            ("unrecognized format directive ".toList ++ ticked ['%', c.letter]) :: warnings)
  | fuel + 1, text => do
    let plain := text.takeWhile fun c => c ≠ '\\' && c ≠ '%'
    let (pieces, warnings) ← formatPieces fuel (text.drop plain.length)
    return (.text plain :: pieces, warnings)

/-- The letters of a list of kinds. -/
def kindLetters (word : Bytes) : Except Bytes (List Char) :=
  go (word.length + 1) [] word
where
  /-- Reads letters with commas between them. -/
  go : (fuel : Nat) → (seen : List Char) → Bytes → Except Bytes (List Char)
    | 0, seen, _ => .ok seen
    | _, _, [] => .error "Arguments to -type should contain at least one letter".toList
    | fuel + 1, seen, c :: rest =>
      if !"bcdflpsD".toList.contains c then .error ("Unknown argument to -type: ".toList ++ [c])
      else if seen.contains c then
        .error ("Duplicate file type ".toList ++ quoted [c] ++ " in the argument list to -type.".toList)
      else
        match rest with
        | [] => .ok (c :: seen)
        | [','] => .error "Last file type in list argument to -type is missing, i.e., list is ending on: ','".toList
        | ',' :: rest => go fuel (c :: seen) rest
        | _ => .error "Must separate multiple arguments to -type using: ','".toList

/-- The units of sizes. -/
def sizeUnits : List (Char × Nat) :=
  [('b', 512), ('c', 1), ('w', 2), ('k', 1024), ('M', Nat.pow 1024 2), ('G', Nat.pow 1024 3)]

/-- The size that a word stands for, with its unit. -/
def readSize (word : Bytes) : Except Bytes (Measure × Nat) :=
  let last := word.getLast?.getD ' '
  match sizeUnits.lookup last with
  | some unit =>
    match Measure.read? word.dropLast with
    | some m => .ok (m, unit)
    | none => .error ("Invalid argument ".toList ++ ticked word ++ " to -size".toList)
  | none =>
    if !last.isDigit then .error ("invalid -size type ".toList ++ ticked (word.reverse.take 1))
    else
      match Measure.read? word with
      | some m => .ok (m, 512)
      | none => .error ("Invalid argument ".toList ++ ticked word ++ " to -size".toList)

/-- The permissions that a word asks for. -/
def readPermission (word : Bytes) : Except Bytes Sought :=
  let read (text : Bytes) : Except Bytes Nat :=
    let text := if "+-=".toList.any fun c => text.head? = some c then 'a' :: text else text
    match Permission.change? text false 0 with
    | some mode => .ok mode
    | none => .error ("invalid mode ".toList ++ quoted word)
  match word with
  | '-' :: text => (read text).map .allOf
  | '/' :: text => (read text).map .someOf
  | text => (read text).map .these

/-- The ways to write expressions, by name. -/
def regexStyles : List (String × Pattern.RegexStyle) :=
  let basic : Pattern.RegexStyle := {}
  let extended : Pattern.RegexStyle := { extended := true }
  [("findutils-default", basic), ("ed", basic), ("emacs", basic), ("gnu-awk", extended), ("grep", basic),
    ("posix-awk", extended), ("awk", extended), ("posix-basic", basic), ("posix-egrep", extended),
    ("egrep", extended), ("posix-extended", extended), ("posix-minimal-basic", basic), ("sed", basic)]

/-- The words of a program up to the one that ends them; whether it is run once. -/
def programWords (once : Bool) : List Bytes → Option (List Bytes × Bool × List Bytes)
  | [] => none
  | word :: rest =>
    if word = [';'] then some ([], false, rest)
    else if once && word = ['\x7b', '\x7d'] && rest.head? = some ['+'] then some ([word], true, rest.drop 1)
    else (programWords once rest).map fun (words, isOnce, rest) => (word :: words, isOnce, rest)

/-- Adds a sign; between two steps there is an operator. -/
def addSign (s : Sign) : Reader Unit :=
  modify fun d =>
    let begins : Bool := match s with | .step _ | .not _ | .opened _ => true | _ => false
    let ends : Bool := match d.signs.head? with | some (.step _) | some (.closed _) => true | _ => false
    let between : List Sign := if begins && ends then [.operator .and "-a".toList] else []
    { d with signs := s :: between ++ d.signs }

/-- Takes what a reader of a word makes of it. -/
def taking {α : Type} (result : Except Bytes α) : Reader α :=
  match result with
  | .ok a => return a
  | .error text => fault text

/-- Reads a step that takes no value. -/
def plainStep? (word : String) : Option Step :=
  match word with
  | "-true" | "-xdev" | "-mount" | "-noleaf" | "-daystart" | "-follow" | "-warn" | "-nowarn" | "-readable"
  | "-writable" => some (.always true)
  | "-false" | "-nouser" | "-nogroup" => some (.always false)
  | "-empty" => some .empty
  | "-executable" => some .executable
  | "-print" => some (.print ['\n'])
  | "-print0" => some (.print ['\x00'])
  | "-prune" => some .prune
  | "-quit" => some .quit
  | _ => none

/-- Reads a step that takes a value. -/
def valuedStep? (word : String) (value : Bytes) : Option (Reader Step) :=
  let measure (use : Measure → Step) : Reader Step :=
    match Measure.read? value with
    | some m => return use m
    | none => fault ("invalid argument ".toList ++ ticked value ++ " to ".toList ++ ticked word.toList)
  let depth : Reader Nat :=
    match Bytes.toNat? value with
    | some n => return n
    | none =>
      fault ("Expected a positive decimal integer argument to ".toList ++ word.toList ++
        ", but got ".toList ++ quoted value)
  let regex (fold : Bool) : Reader Step := do
    match Pattern.RegexText.read? (← get).style value with
    | .ok r => return .regex (if fold then r.foldCase else r)
    | .error e =>
      fault ("failed to compile regular expression ".toList ++ quoted value ++ ": ".toList ++ e.message.toList)
  match word with
  | "-name" => some (return .name false value)
  | "-iname" => some (return .name true value)
  | "-path" | "-wholename" => some (return .path false value)
  | "-ipath" | "-iwholename" => some (return .path true value)
  | "-regex" => some (regex false)
  | "-iregex" => some (regex true)
  | "-type" | "-xtype" => some (return .kind (← taking (kindLetters value)))
  | "-size" => some do
    let (m, unit) ← taking (readSize value)
    return .size m unit
  | "-perm" => some (return .permission (← taking (readPermission value)))
  | "-links" => some (measure .links)
  | "-mtime" | "-atime" | "-ctime" | "-mmin" | "-amin" | "-cmin" =>
    some (measure fun m => .always (m.holds 0))
  | "-uid" | "-gid" => some (measure fun m => .always (m.holds 0))
  | "-user" | "-group" => some (
    if value = "root".toList then return .always true
    else fault (quoted value ++ " is not the name of a known ".toList ++ word.toList.drop 1))
  | "-newer" | "-anewer" | "-cnewer" | "-samefile" => some do
    if !(← get).isThere value then fault (quoted value ++ ": No such file or directory".toList)
    return .always false
  | "-lname" | "-inum" => some (return .always false)
  | "-printf" => some do
    let (pieces, warnings) ← taking (formatPieces (value.length + 1) value)
    modify fun d => { d with plan := { d.plan with
      warnings := d.plan.warnings ++ warnings.map ("warning: ".toList ++ ·) } }
    return .printf pieces
  | "-maxdepth" => some do
    let n ← depth
    modify fun d => { d with plan := { d.plan with maxDepth := some n } }
    return .always true
  | "-mindepth" => some do
    let n ← depth
    modify fun d => { d with plan := { d.plan with minDepth := n } }
    return .always true
  | "-regextype" => some (
    match regexStyles.lookup (String.ofList value) with
    | some style => do
      modify fun d => { d with style := style }
      return .always true
    | none =>
      fault ("Unknown regular expression type ".toList ++ quoted value ++ "; valid types are ".toList ++
        Bytes.join ", ".toList (regexStyles.map fun s => quoted s.1.toList) ++ ['.']))
  | _ => none

/-- Reads the step that begins with a word; gives what follows it. -/
def readStep (word : Bytes) (rest : List Bytes) : Reader (Step × List Bytes) := do
  let name := String.ofList word
  match plainStep? name with
  | some s => return (s, rest)
  | none =>
    match name with
    | "-depth" | "-d" | "-delete" => do
      modify fun d => { d with plan := { d.plan with contentsFirst := true } }
      return (if name = "-delete" then .delete else .always true, rest)
    | "-exec" | "-execdir" => do
      if name = "-execdir" then
        if let some text := (← get).pathFault then fault text
      match programWords true rest with
      | none => fault ("missing argument to ".toList ++ ticked word)
      | some ([], _, _) => fault ("invalid argument ".toList ++ ticked [';'] ++ " to ".toList ++ ticked word)
      | some (words, false, rest) => return (.execute (name = "-execdir") words, rest)
      | some (words, true, rest) =>
        let braces : Bytes := ['\x7b', '\x7d']
        if 1 < (words.filter fun w => Bytes.occursIn braces w).length then
          fault ("Only one instance of ".toList ++ braces ++ " is supported with ".toList ++ word ++ " ... +".toList)
        if name = "-execdir" then return (.execute true words, rest)
        let number := (← get).plan.gathered.length
        modify fun d => { d with plan := { d.plan with
          gathered := d.plan.gathered ++ [(number, words.dropLast)] } }
        return (.gather number words.dropLast, rest)
    | _ =>
      match valuedStep? name (rest.headD []) with
      | none => fault ("unknown predicate ".toList ++ ticked word)
      | some step =>
        if rest.isEmpty then fault ("missing argument to ".toList ++ ticked word)
        return (← step, rest.drop 1)

/-- Reads the words of a condition. -/
def readSigns : (fuel : Nat) → (last : Option Bytes) → List Bytes → Reader Unit
  | 0, _, _ | _, _, [] => return
  | fuel + 1, last, word :: rest => do
    if !isConditionWord false word then
      let isThere := (← get).isThere word
      let advice : List Bytes :=
        match last with
        | some name =>
          if isThere then ["possible unquoted pattern after predicate ".toList ++ ticked name ++ ['?']] else []
        | none => []
      throw (("paths must precede expression: ".toList ++ ticked word) :: advice)
    match String.ofList word with
    | "(" => addSign (.opened false)
    | ")" => addSign (.closed false)
    | "!" | "-not" => addSign (.not word)
    | "-a" | "-and" => addSign (.operator .and word)
    | "-o" | "-or" => addSign (.operator .or word)
    | "," => addSign (.operator .next word)
    | _ =>
      let (step, rest) ← readStep word rest
      addSign (.step step)
      return ← readSigns fuel (some word) rest
    readSigns fuel (some word) rest

/-! ### Structure -/

/-- Computations that put signs together. -/
abbrev Builder := StateT (List Sign) (Except Bytes)

/-- The words about signs that are no condition. -/
def invalid (text : String) : Bytes :=
  "invalid expression; ".toList ++ text.toList

/-- Puts together an operand, and the operators after it that bind tighter than
    `strength`; `before` is the word in front of it. -/
def build : (fuel : Nat) → (strength : Nat) → (before : Option (Bytes × Bool)) → Builder Condition
  | 0, _, _ => throw "invalid expression".toList
  | fuel + 1, strength, before => do
    let first ← do
      match ← get with
      | [] => throw "invalid expression".toList
      | .operator _ word :: _ =>
        throw (invalid "you have used a binary operator " ++ quoted word ++ " with nothing before it.".toList)
      | .closed made :: _ =>
        match before, made with
        | some (word, true), false =>
          throw ("expected an expression between ".toList ++ quoted word ++ " and ')'".toList)
        | some (word, _), true => throw ("expected an expression after ".toList ++ quoted word)
        | _, _ => throw (invalid "you have too many ')'")
      | .step s :: rest =>
        set rest
        pure (Condition.step s)
      | .not word :: rest =>
        set rest
        pure (Condition.not (← build fuel 4 (some (word, true))))
      | .opened _ :: rest =>
        set rest
        match rest with
        | [] | .closed true :: _ =>
          throw (invalid "expected to find a ')' but didn't see one. Perhaps you need an extra predicate after '('")
        | .closed false :: _ => throw (invalid "empty parentheses are not allowed.")
        | _ =>
          let inner ← build fuel 0 (some (['('], false))
          match ← get with
          | .closed _ :: rest =>
            set rest
            pure inner
          | _ => throw (invalid "I was expecting to find a ')' somewhere but did not see one.")
    extend fuel fuel strength first
where
  /-- Adds operators and their second operands to a condition. -/
  extend (fuel : Nat) : (rounds : Nat) → (strength : Nat) → Condition → Builder Condition
    | 0, _, c => return c
    | rounds + 1, strength, c => do
      match ← get with
      | .operator o word :: rest =>
        if o.strength ≤ strength then return c
        set rest
        let d ← build fuel o.strength (some (word, true))
        extend fuel rounds strength (match o with | .next => .next c d | .or => .or c d | .and => .and c d)
      | _ => return c

/-- The condition that signs stand for; without a step that does something its entries
    are printed. -/
def conditionOf (signs : List Sign) : Except Bytes Condition := do
  let acts := signs.any fun s => match s with | .step s => s.acts | _ => false
  let printing : Sign := .step (.print ['\n'])
  let signs : List Sign :=
    if signs.isEmpty then [printing]
    else if acts then signs
    else .opened true :: signs ++ [.closed true, .operator .and "-a".toList, printing]
  match ← (build (2 * signs.length + 2) 0 none).run signs with
  | (c, []) => return c
  | (_, .closed _ :: _) => throw "you have too many ')'".toList
  | (_, _ :: _) => throw "unexpected extra predicate".toList

/-- Reads the options before the starting places. -/
def dropLeading : (fuel : Nat) → List Bytes → List Bytes
  | 0, words => words
  | _, [] => []
  | fuel + 1, word :: rest =>
    if ["-H", "-L", "-P"].contains (String.ofList word) then dropLeading fuel rest
    else if word = ['-', '-'] then rest
    else if word = ['-', 'D'] then dropLeading fuel (rest.drop 1)
    else
      match word with
      | '-' :: 'O' :: _ => dropLeading fuel rest
      | _ => word :: rest

/-- What is wrong with a search path for programs that are run in other directories. -/
def pathFault? (searchPath : Bytes) : Option Bytes :=
  let places := Bytes.splitOn ':' searchPath
  let blame := " included in the PATH environment variable, which is insecure in combination with the".toList ++
    " -execdir action of find.  Please remove ".toList
  if places.contains [] || places.contains ['.'] then
    some ("The current directory is".toList ++ blame ++
      "the current directory from your $PATH (that is, remove \".\", doubled colons, or leading or trailing colons)".toList)
  else
    (places.find? fun p => p.head? ≠ some '/').map fun p =>
      "The relative path ".toList ++ quoted p ++ " is".toList ++ blame ++ "that entry from $PATH".toList

/-- The plan that some words stand for; `isThere` says which paths lead somewhere. -/
def readPlan (searchPath : Bytes) (isThere : Bytes → Bool) (words : List Bytes) :
    Except (List Bytes) SearchPlan := do
  let words := dropLeading words.length words
  let places := words.takeWhile fun w => !isConditionWord true w
  let plan : SearchPlan := {
    places := if places.isEmpty then [['.']] else places, condition := .step (.always true) }
  let rest := words.drop places.length
  let ((), draft) ← (readSigns (rest.length + 1) none rest).run
    { isThere := isThere, pathFault := pathFault? searchPath, plan := plan }
  match conditionOf draft.signs.reverse with
  | .ok c => return { draft.plan with condition := c }
  | .error text => throw [text]

end Lifelines.Utility.Find
