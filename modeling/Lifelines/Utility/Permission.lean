import Lifelines.Utility.Paths

/-!
# Permissions

A file may be run or not; all else is always allowed. Written as three digits of
base eight or as letters, permissions say more, and of what they say only this is
kept.

* `Permission.ofFile`, `Permission.text`: the permissions of a file, in letters;
* `Permission.change?`: a change of permissions as it is written.
-/

namespace Lifelines.Utility

namespace Permission

/-- The permissions of what may be run or entered, or may not. -/
def ofFile (executable : Bool) : Nat :=
  if executable then 0o755 else 0o644

/-- The permissions that new files do not get. -/
def mask : Nat := 0o022

/-- Whether a file with some permissions may be run. -/
def isExecutable (mode : Nat) : Bool :=
  mode &&& 0o111 ≠ 0

/-- Permissions in base eight. -/
def octal (mode : Nat) : Bytes :=
  Bytes.padLeft 4 '0' (Nat.toDigits 8 mode)

/-- Permissions in letters. -/
def text (mode : Nat) : Bytes :=
  [6, 3, 0].flatMap fun shift =>
    let bits := mode >>> shift
    [if bits &&& 4 ≠ 0 then 'r' else '-', if bits &&& 2 ≠ 0 then 'w' else '-',
      if bits &&& 1 ≠ 0 then 'x' else '-']

/-- The bits of a letter, for the owner, the group and all others at once. -/
def letterBits? (mode : Nat) (directory : Bool) (c : Char) : Option Nat :=
  match c with
  | 'r' => some 0o444
  | 'w' => some 0o222
  | 'x' => some 0o111
  | 'X' => some (if directory || isExecutable mode then 0o111 else 0)
  | 's' | 't' => some 0
  | 'u' => some ((mode >>> 6 &&& 7) * 0o111)
  | 'g' => some ((mode >>> 3 &&& 7) * 0o111)
  | 'o' => some ((mode &&& 7) * 0o111)
  | _ => none

/-- The bits of those whom a letter means. -/
def whoBits (c : Char) : Nat :=
  match c with
  | 'u' => 0o700
  | 'g' => 0o070
  | 'o' => 0o007
  | _ => 0o777

/-- Carries out what is written after the letters for whom it is meant: signs, each
    with letters for permissions. -/
def change (directory : Bool) (who : Nat) (fuel : Nat) (mode : Nat) (text : Bytes) : Option Nat :=
  match fuel, text with
  | _, [] => some mode
  | 0, _ => none
  | fuel + 1, sign :: rest => do
    if !"+-=".toList.contains sign then none
    else
      let letters := rest.takeWhile fun c => !"+-=".toList.contains c
      let bits ← letters.foldlM (fun bits c => (letterBits? mode directory c).map (bits ||| ·)) 0
      let bits := bits &&& (if who = 0 then 0o777 - mask else who)
      let mode :=
        match sign with
        | '+' => mode ||| bits
        | '-' => mode - (mode &&& bits)
        | _ => mode - (mode &&& (if who = 0 then 0o777 else who)) ||| bits
      change directory who fuel mode (rest.drop letters.length)

/-- The permissions after a change, if it is one. -/
def change? (word : Bytes) (directory : Bool) (mode : Nat) : Option Nat :=
  let isOctal (c : Char) : Bool := '0' ≤ c && c ≤ '7'
  if word.isEmpty then none
  else if word.all isOctal then
    let n := word.foldl (fun n c => n * 8 + (c.toNat - '0'.toNat)) 0
    if n ≤ 0o7777 then some (n &&& 0o777) else none
  else
    (Bytes.splitOn ',' word).foldlM (fun mode part =>
      let who := part.takeWhile fun c => "ugoa".toList.contains c
      let signs := part.drop who.length
      if signs.isEmpty then none
      else change directory ((who.map whoBits).foldl (· ||| ·) 0) signs.length mode signs) mode

/-- Whether a word that starts with a dash takes permissions away. -/
def takesAway (word : Bytes) : Bool :=
  match word with
  | '-' :: c :: rest => (c :: rest).all fun d => "rwxXstugo,=+-".toList.contains d && (c ≠ '-')
  | _ => false

end Permission

/-- Changes permissions. -/
def chmod : Work Nat := do
  let names := [("changes", 'c'), ("silent", 'f'), ("quiet", 'f'), ("verbose", 'v'),
    ("recursive", 'R'), ("reference", 'r')]
  let args := (← read).args
  let minus := args.find? Permission.takesAway
  let args := if minus.isSome then args.filter fun a => !Permission.takesAway a else args
  withReader (fun job => { job with args := args }) do
    withOptions { letters := ('r', .value) :: letters "Rcfv", names := names } fun g => do
      let split : Option Bytes × List Bytes :=
        match g.value? 'r', minus with
        | some _, _ => (none, g.operands)
        | none, some m => (some m, g.operands)
        | none, none => (g.operands.head?, g.operands.tail)
      match split with
      | (none, []) => missingOperand []
      | (some _, []) => if minus.isSome then missingOperand [] else missingOperand g.operands
      | (word, paths) =>
        let word ← do
          match word, g.value? 'r' with
          | some w, _ => pure w
          | none, some other =>
            match ← Act.kind other with
            | .ok (.file _ true) => pure "755".toList
            | .ok _ => pure "644".toList
            | .error e =>
              return ← Work.fail 1 ("failed to get attributes of ".toList ++ quoted other ++
                ": ".toList ++ e.reason)
          | none, none => pure []
        if (Permission.change? word false 0).isNone then
          return ← misuse 1 ("invalid mode: ".toList ++ quoted word)
        let mut status := 0
        for path in paths do
          match ← Act.kind path with
          | .error e =>
            if !g.has 'f' then
              Work.complain ("cannot access ".toList ++ quoted path ++ ": ".toList ++ e.reason)
            status := 1
          | .ok kind =>
            let found ← if g.has 'R' then allBelow path else pure [(path, kind)]
            for (path, kind) in found do
              let directory := kind = .directory
              let before := Permission.ofFile (directory || (kind matches .file _ true))
              let after := (Permission.change? word directory before).getD before
              let change : Filing Unit :=
                Filing.setExecutable path.toText (Permission.isExecutable after)
              let _ ← Act.filing change
              let shown (mode : Nat) : Bytes :=
                Permission.octal mode ++ " (".toList ++ Permission.text mode ++ [')']
              if after ≠ before && (g.has 'v' || g.has 'c') then
                Work.sayLine ("mode of ".toList ++ quoted path ++ " changed from ".toList ++
                  shown before ++ " to ".toList ++ shown after)
              else if g.has 'v' then
                Work.sayLine ("mode of ".toList ++ quoted path ++ " retained as ".toList ++ shown after)
        return status

end Lifelines.Utility
