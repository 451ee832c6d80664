import Lifelines.Process.Program
import Lifelines.Utility.Excerpt

/-!
# What is around a program

Utilities that tell about the system, the user and the environment, and those
that only let time pass. There is one user, and one kind of system.

* `printenv`, `which`, `uname`, `id`, `whoami`: what there is;
* `sleep`, `yes`: what goes on.
-/

namespace Lifelines.Utility

/-- Prints the environment, or the values of some variables. -/
def printenv : Work Nat :=
  withOptions { letters := letters "0", names := [("null", '0')], ordered := true, failure := 2 } fun g => do
    let newline := if g.has '0' then '\x00' else '\n'
    let environment := (← read).environment
    if g.operands.isEmpty then
      Work.say (environment.flatMap fun (name, value) => name ++ '=' :: value ++ [newline])
      return 0
    let found := g.operands.map fun name => environment.lookup name
    Work.say ((found.filterMap id).flatMap fun value => value ++ [newline])
    return if found.all (·.isSome) then 0 else 1

/-- Prints the paths of programs. -/
def which : Work Nat :=
  withOptions { letters := letters "as", failure := 2 } fun g => do
    let searchPath := Programs.searchPathOf (← read).environment
    let mut missing := g.operands.isEmpty
    for name in g.operands do
      let places := (Bytes.splitOn ':' searchPath).map fun dir =>
        Programs.pathIn (if dir.isEmpty then ['.'] else dir) name
      let places := if name.contains '/' then [name] else places
      let found ← if name.isEmpty then pure [] else places.filterM fun p => Programs.isProgram p
      if found.isEmpty then missing := true
      if !g.has 's' then
        Work.say (Bytes.ofLines (if g.has 'a' then found else found.take 1))
    return if missing then 1 else 0

/-- The names of the system, by the option that asks for them. -/
def systemNames : List (Char × String) :=
  [('s', "Linux"), ('n', "localhost"), ('r', "6.1.0"), ('v', "#1 SMP"), ('m', "x86_64"), ('o', "GNU/Linux")]

/-- Prints names of the system. -/
def uname : Work Nat :=
  let names := [("all", 'a'), ("kernel-name", 's'), ("nodename", 'n'), ("kernel-release", 'r'),
    ("kernel-version", 'v'), ("machine", 'm'), ("processor", 'p'), ("hardware-platform", 'i'),
    ("operating-system", 'o')]
  withOptions { letters := letters "asnrvmpio", names := names } fun g => do
    match g.operands with
    | extra :: _ => extraOperand extra
    | [] =>
      let wanted := if g.options.isEmpty then [('s', "Linux")] else
        systemNames.filter fun n => g.has 'a' || g.has n.1
      let unknown := if g.has 'p' || g.has 'i' then ["unknown".toList] else []
      Work.sayLine (Bytes.join [' '] (wanted.map (·.2.toList) ++ unknown))
      return 0

/-- Prints one text. -/
def saying (text : String) : Work Nat := do
  Work.sayLine text.toList
  return 0

/-- Prints who the user is. -/
def userIds : Work Nat :=
  let names := [("user", 'u'), ("group", 'g'), ("groups", 'G'), ("name", 'n'), ("real", 'r')]
  withOptions { letters := letters "agGnruzZ", names := names } fun g => do
    if g.has 'u' || g.has 'g' || g.has 'G' then saying (if g.has 'n' then "root" else "0")
    else saying "uid=0(root) gid=0(root) groups=0(root)"

/-- Says whether the input is a terminal, which it is not. -/
def tty : Work Nat := do
  if (← read).args.all fun a => a ≠ "-s".toList then Work.sayLine "not a tty".toList
  return 1

/-- The length of a time in milliseconds: a number and a letter for its unit. -/
def readDuration? (word : Bytes) : Option Nat :=
  let unit? : Option Nat :=
    match word.getLast? with
    | some 's' => some 1
    | some 'm' => some 60
    | some 'h' => some 3600
    | some 'd' => some 86400
    | _ => none
  let digits := if unit?.isSome then word.dropLast else word
  let whole := digits.takeWhile Char.isDigit
  let fraction? : Option Bytes :=
    match digits.drop whole.length with
    | [] => some []
    | '.' :: fraction => if fraction.all Char.isDigit then some fraction else none
    | _ => none
  match fraction? with
  | some fraction =>
    match Bytes.toNat? (whole ++ fraction) with
    | some n =>
      let units := n * 1000 * unit?.getD 1
      let scale := Nat.pow 10 fraction.length
      some ((units + scale - 1) / scale)
    | none => none
  | none => none

/-- Lets time pass. -/
def sleep : Work Nat := do
  withOptions { letters := [] } fun g => do
    if g.operands.isEmpty then return ← missingOperand []
    let times := g.operands.map fun word => (word, readDuration? word)
    let mut wrong := false
    for (word, time) in times do
      if time.isNone && word ≠ "infinity".toList && word ≠ "inf".toList then
        Work.complain ("invalid time interval ".toList ++ quoted word)
        wrong := true
    if wrong then return ← suggestHelp 1
    if times.any fun t => t.2.isNone then Act.stopEndless
    else Act.wait ((times.filterMap (·.2)).foldl (· + ·) 0)
    return 0

/-- Prints a line again and again, for as long as it is read. -/
def yes : Work Nat := do
  let args := (← read).args
  let args := if args.head? = some ['-', '-'] then args.drop 1 else args
  let line := (if args.isEmpty then ['y'] else Bytes.join [' '] args) ++ ['\n']
  match (← read).streams.lookup 1 with
  | none => Work.fail 1 "standard output: Bad file descriptor".toList
  | some id =>
    match ← Act.channel id with
    | .full => Work.fail 1 "standard output: No space left on device".toList
    | .sink _ =>
      Work.say (List.replicate (Act.zeroBlock / line.length + 1) line).flatten
      return 141
    | _ =>
      Act.stopEndless
      return 1

end Lifelines.Utility
