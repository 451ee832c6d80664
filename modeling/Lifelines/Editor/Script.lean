import Lifelines.Editor.Command
import Lifelines.Pattern.RegexText

/-!
# Scripts of the stream editor

A script is given in parts, each a text of its own or a file. Commands are
separated by semicolons and newlines; a command that takes a text or the name of
a file goes on to the end of the line. What is wrong with a script is said with
the place where it was noticed: the number of characters read from a text, or the
line of a file.

* `Fault`: why a text is no script;
* `Script.read?`: the commands of a script.
-/

namespace Lifelines.Editor

open Pattern

/-- Why a text is no script. -/
inductive Fault where
  | severalNegations
  | unexpectedComma
  | stepFirst
  | openBrace
  | closedBrace
  | junkAfterCommand
  | noText
  | addressedBrace
  | addressedLabel
  | addressedComment
  | missingCommand
  | oneAddress
  | openAddress
  | openSubstitution
  | openExchange
  | badFlag
  | severalPrints
  | severalAll
  | severalNumbers
  | zeroNumber
  | unequalLetters
  | lineZero
  | unknownCommand (c : Char)
  | noLabel
  | noFileName
  | noSuchGroup (n : Nat)
  | noLastPattern
  | badPattern (fault : RegexFault)

/-- What is said about a fault. -/
def Fault.message : Fault → Bytes
  | severalNegations => "multiple \x60!'s".toList
  | unexpectedComma => "unexpected \x60,'".toList
  | stepFirst => "invalid usage of +N or ~N as first address".toList
  | openBrace => "unmatched \x60\x7b'".toList
  | closedBrace => "unexpected \x60\x7d'".toList
  | junkAfterCommand => "extra characters after command".toList
  | noText => "expected \\ after \x60a', \x60c' or \x60i'".toList
  | addressedBrace => "\x60\x7d' doesn't want any addresses".toList
  | addressedLabel => ": doesn't want any addresses".toList
  | addressedComment => "comments don't accept any addresses".toList
  | missingCommand => "missing command".toList
  | oneAddress => "command only uses one address".toList
  | openAddress => "unterminated address regex".toList
  | openSubstitution => "unterminated \x60s' command".toList
  | openExchange => "unterminated \x60y' command".toList
  | badFlag => "unknown option to \x60s'".toList
  | severalPrints => "multiple \x60p' options to \x60s' command".toList
  | severalAll => "multiple \x60g' options to \x60s' command".toList
  | severalNumbers => "multiple number options to \x60s' command".toList
  | zeroNumber => "number option to \x60s' command may not be zero".toList
  | unequalLetters => "strings for \x60y' command are different lengths".toList
  | lineZero => "invalid usage of line address 0".toList
  | unknownCommand c => "unknown command: \x60".toList ++ [c, '\'']
  | noLabel => "\":\" lacks a label".toList
  | noFileName => "missing filename in r/R/w/W commands".toList
  | noSuchGroup n =>
    "invalid reference \\".toList ++ Bytes.ofNat n ++ " on \x60s' command's RHS".toList
  | noLastPattern => "no previous regular expression".toList
  | badPattern e => e.message.toList

/-- A part of a script: a text, with its number, or the contents of a file. -/
inductive Part where
  | text (n : Nat) (t : Bytes)
  | file (path t : Bytes)

/-- Where something is wrong. -/
inductive Spot where
  | text (n consumed : Nat)
  | file (path : Bytes) (line : Nat)

/-- A spot as it stands in a complaint. -/
def Spot.words : Spot → Bytes
  | .text n consumed =>
    "-e expression #".toList ++ Bytes.ofNat n ++ ", char ".toList ++ Bytes.ofNat consumed
  | .file path line => "file ".toList ++ path ++ " line ".toList ++ Bytes.ofNat line

/-- What has been read so far, and what is left. -/
structure Draft where
  extended : Bool
  rest : Bytes := []
  consumed : Nat := 0
  line : Nat := 1
  part : Part := .text 1 []
  commands : Array Command := #[]
  /-- The blocks that are open, with the spots where they start. -/
  blocks : List (Nat × Spot) := []
  labels : List (Bytes × Nat) := []
  /-- The number of the command whose text is still to come. -/
  awaiting : Option Nat := none
  /-- Whether nothing is printed unless asked for. -/
  quiet : Bool := false

/-- Reading a script. -/
abbrev Reading := StateT Draft (Except (Spot × Fault))

namespace Reading

/-- The spot that reading has come to. -/
def spot : Reading Spot := do
  let d ← get
  match d.part with
  | .text n _ => return .text n d.consumed
  | .file path _ => return .file path d.line

/-- Stops at a fault. -/
def fail {α : Type} (f : Fault) : Reading α := do
  throw (← spot, f)

/-- Reads a character, if there is one. -/
def next : Reading (Option Char) := do
  let d ← get
  match d.rest with
  | [] => return none
  | c :: rest =>
    set { d with rest := rest, consumed := d.consumed + 1, line := if c = '\n' then d.line + 1 else d.line }
    return some c

/-- Takes back a character that has been read. -/
def putBack : Option Char → Reading Unit
  | none => return
  | some c => modify fun d =>
      { d with rest := c :: d.rest, consumed := d.consumed - 1, line := if c = '\n' then d.line - 1 else d.line }

/-- Reads characters as long as they are of a kind. -/
def takeWhile (p : Char → Bool) : Reading Bytes := do
  let taken := (← get).rest.takeWhile p
  modify fun d => { d with
    rest := d.rest.drop taken.length, consumed := d.consumed + taken.length
    line := d.line + taken.count '\n' }
  return taken

/-- Whether a character is a blank. -/
def isBlank (c : Char) : Bool :=
  c = ' ' || c = '\t'

/-- Reads the next character that is no blank, if there is one. -/
def nextVisible : Reading (Option Char) := do
  let _ ← takeWhile isBlank
  next

/-- Reads a number, the first digit of which has been read already, if it is there. -/
def number (first : Option Char) : Reading Nat := do
  match first with
  | some c =>
    if c.isDigit then
      let digits ← takeWhile Char.isDigit
      return ((Bytes.toNat? (c :: digits)).getD 0)
    else
      putBack first
      return 0
  | none => return 0

/-- Reads the end of a command. -/
def endOfCommand : Reading Unit := do
  match ← nextVisible with
  | none | some '\n' | some ';' => return
  | some '}' => putBack (some '}')
  | some '#' => putBack (some '#')
  | some _ => fail .junkAfterCommand

/-- Reads the rest of a set in a pattern, the bracket before it having been read; nothing
    if it is not closed. A closing bracket that comes `first` is a member. -/
def setRest : (fuel : Nat) → (first : Bool) → (done : Bytes) → Reading (Option Bytes)
  | 0, _, _ => return none
  | fuel + 1, first, done => do
    match ← next with
    | none => return none
    | some '\n' =>
      putBack (some '\n')
      return none
    | some ']' => if first then setRest fuel false (']' :: done) else return some (']' :: done)
    | some '^' => setRest fuel (first && done.head? = some '[') ('^' :: done)
    | some '[' =>
      match (← get).rest with
      | ':' :: _ =>
        -- a named class ends with its own bracket
        let name ← takeWhile fun c => c ≠ ']' && c ≠ '\n'
        match ← next with
        | some ']' => setRest fuel false (']' :: name.reverse ++ '[' :: done)
        | other =>
          putBack other
          return none
      | _ => setRest fuel false ('[' :: done)
    | some '\\' =>
      match ← next with
      | some 'n' => setRest fuel false ('\n' :: done)
      | other =>
        putBack other
        setRest fuel false ('\\' :: done)
    | some c => setRest fuel false (c :: done)

/-- Reads up to a delimiter, which a backslash takes away the meaning of, and so does a
    set in a pattern; nothing if it is missing. -/
def delimited (mark : Char) (pattern : Bool) : Reading (Option Bytes) := do
  let rec go (fuel : Nat) (done : Bytes) : Reading (Option Bytes) := do
    match fuel with
    | 0 => return none
    | fuel + 1 =>
      match ← next with
      | none => return none
      | some '\n' =>
        putBack (some '\n')
        return none
      | some c =>
        if c = mark then return some done.reverse
        else if c = '\\' then
          match ← next with
          | none => return none
          | some d =>
            if d = 'n' && pattern then go fuel ('\n' :: done)
            else if d = '\n' then go fuel ('\n' :: done)
            else if d = mark && !(!pattern && d = '&') then go fuel (d :: done)
            else go fuel (d :: '\\' :: done)
        else if c = '[' && pattern then
          match ← setRest (fuel + 1) true ('[' :: done) with
          | some done => go fuel done
          | none => return none
        else go fuel (c :: done)
  go ((← get).rest.length + 1) []

end Reading

/-! ### Escapes -/

/-- The value of digits in a base, at most `most` of them, and what follows. -/
def escapedNumber (base most : Nat) (text : Bytes) : Option (Char × Bytes) :=
  let digit? (c : Char) : Option Nat :=
    let n := if c.isDigit then c.toNat - 48 else if c.isAlpha then c.toLower.toNat - 87 else base
    if n < base then some n else none
  let digits := (text.take most).takeWhile fun c => (digit? c).isSome
  if digits.isEmpty then none
  else
    some (Char.ofNat (digits.foldl (fun n c => n * base + (digit? c).getD 0) 0 % 256), text.drop digits.length)

/-- The character that an escape stands for, and what follows it. -/
def escape? : Bytes → Option (Char × Bytes)
  | 'a' :: rest => some ('\x07', rest)
  | 'f' :: rest => some ('\x0c', rest)
  | 'r' :: rest => some ('\r', rest)
  | 't' :: rest => some ('\t', rest)
  | 'v' :: rest => some ('\x0b', rest)
  | 'c' :: c :: rest => some (Char.ofNat ((c.toUpper.toNat + 64) % 128), rest)
  | 'd' :: rest => escapedNumber 10 3 rest
  | 'o' :: rest => escapedNumber 8 3 rest
  | 'x' :: rest => escapedNumber 16 2 rest
  | _ => none

/-- Puts characters in place of escapes; those in `special` keep a backslash. -/
def unescape (special : Bytes) : (fuel : Nat) → Bytes → Bytes
  | 0, text => text
  | _, [] => []
  | fuel + 1, '\\' :: rest =>
    match escape? rest with
    | some (c, after) =>
      (if special.contains c then ['\\', c] else [c]) ++ unescape special fuel after
    | none =>
      match rest with
      | [] => ['\\']
      | c :: after => '\\' :: c :: unescape special fuel after
  | fuel + 1, c :: rest => c :: unescape special fuel rest

/-- The characters that mean something in a pattern. -/
def patternSigns : Bytes :=
  "*.[]^$/+?()\x7b\x7d|\\".toList

namespace Reading

/-- The pattern that a text stands for; nothing if it is empty. -/
def pattern (text : Bytes) (fold multiline : Bool) : Reading (Option Regex) := do
  if text.isEmpty then return none
  let style : RegexStyle := { extended := (← get).extended, multiline := multiline }
  match RegexText.read? style (unescape patternSigns text.length text) with
  | .ok r => return some (if fold then r.foldCase else r)
  | .error e => fail (.badPattern e)

/-! ### Addresses -/

/-- An address, or the end of a range that can only come second. -/
inductive ReadAddress where
  | address (a : Address)
  | after (n : Nat)
  | multiple (n : Nat)

/-- Reads the letters after a pattern. -/
def addressFlags (text : Bytes) : (fuel : Nat) → (fold multiline : Bool) → Reading Address
  | 0, _, _ => fail .openAddress
  | fuel + 1, fold, multiline => do
    match ← nextVisible with
    | some 'I' => addressFlags text fuel true multiline
    | some 'M' => addressFlags text fuel fold true
    | c =>
      putBack c
      return .fitting (← pattern text fold multiline)

/-- Reads an address that starts with a character; nothing if none starts with it. -/
def address? (c : Option Char) : Reading (Option ReadAddress) := do
  match c with
  | some '/' => fromMark '/'
  | some '\\' =>
    match ← next with
    | some mark => fromMark mark
    | none => fail .openAddress
  | some '$' => return some (.address .last)
  | some '+' => return some (.after (← number (← nextVisible)))
  | some '~' => return some (.multiple (← number (← nextVisible)))
  | some c =>
    if c.isDigit then
      let n ← number (some c)
      match ← nextVisible with
      | some '~' =>
        let distance ← number (← nextVisible)
        return some (.address (if distance = 0 then .line n else .step n distance))
      | other =>
        putBack other
        return some (.address (.line n))
    else return none
  | none => return none
where
  /-- Reads a pattern between marks. -/
  fromMark (mark : Char) : Reading (Option ReadAddress) := do
    match ← delimited mark true with
    | none => fail .openAddress
    | some text => return some (.address (← addressFlags text ((← get).rest.length + 1) false false))

/-- Reads for which lines a command is meant; gives the first character of the command,
    too. -/
def scope (first : Option Char) : Reading (Scope × Option Char) := do
  let (s, c) : Scope × Option Char ← do
    match ← address? first with
    | none => pure ({}, first)
    | some (.after _) | some (.multiple _) => fail .stepFirst
    | some (.address a) =>
      match ← nextVisible with
      | some ',' =>
        match ← address? (← nextVisible) with
        | none => fail .unexpectedComma
        | some stop =>
          let stop : RangeEnd :=
            match stop with
            | .address b => .at b
            | .after n => .after n
            | .multiple n => .multiple n
          pure ({ start := some a, stop := some stop }, ← nextVisible)
      | c => pure ({ start := some a }, c)
  match s.start, s.stop with
  | some (.line 0), some (.at (.fitting _)) => pure ()
  | some (.line 0), _ => fail .lineZero
  | _, _ => pure ()
  match c with
  | some '!' =>
    match ← nextVisible with
    | some '!' => fail .severalNegations
    | c => return ({ s with negated := true }, c)
  | c => return (s, c)

/-! ### Commands -/

/-- Reads the name of a file, which goes on to the end of the line. -/
def fileName : Reading Bytes := do
  let _ ← takeWhile isBlank
  let name ← takeWhile (· ≠ '\n')
  let _ ← next
  if name.isEmpty then fail .noFileName
  return name

/-- Reads a label. -/
def label (closes : Bool) : Reading Bytes := do
  let _ ← takeWhile isBlank
  takeWhile fun c => !Bytes.isSpace c && c ≠ ';' && !(closes && c = '}')

/-- Reads the lines of a text: a backslash at the end of a line says that it goes on. The
    second part says whether it ended with a backslash. -/
def lines (fuel : Nat) (done : Bytes) : Reading (Bytes × Bool) := do
  match fuel with
  | 0 => return (done.reverse, false)
  | fuel + 1 =>
    match ← next with
    | none | some '\n' => return (done.reverse, false)
    | some '\\' =>
      match ← next with
      | none => return (done.reverse, true)
      | some c => lines fuel (c :: '\\' :: done)
    | some c => lines fuel (c :: done)

/-- The text that lines stand for: escapes are read, and other backslashes dropped. -/
def textOf (lines : Bytes) : Bytes :=
  dropBackslashes (unescape ['\\'] lines.length (newlines lines)) ++ ['\n']
where
  /-- Puts newlines in place of their escapes. -/
  newlines : Bytes → Bytes
    | '\\' :: 'n' :: rest => '\\' :: '\n' :: newlines rest
    | '\\' :: c :: rest => '\\' :: c :: newlines rest
    | c :: rest => c :: newlines rest
    | [] => []
  /-- Takes each character after a backslash as it is. -/
  dropBackslashes : Bytes → Bytes
    | '\\' :: c :: rest => c :: dropBackslashes rest
    | c :: rest => c :: dropBackslashes rest
    | [] => []

/-- Reads the text of a command that adds lines; nothing if it is to come in the next
    part. -/
def text : Reading (Option Bytes) := do
  let fuel := (← get).rest.length + 2
  match ← nextVisible with
  | none => fail .noText
  | some '\\' =>
    let blanks ← takeWhile isBlank
    match ← next with
    | none => return none
    | some '\n' =>
      if (← get).rest.isEmpty then return none
      return some (textOf (← lines fuel []).1)
    | some c =>
      -- the first character is taken as it is
      let (more, _) ← lines fuel []
      return some (blanks ++ c :: textOf more)
  | c =>
    putBack c
    return some (textOf (← lines fuel []).1)

/-- The parts of what is put in. -/
def insertions : (fuel : Nat) → Bytes → List Insertion
  | 0, _ | _, [] => []
  | fuel + 1, '\\' :: c :: rest =>
    match c with
    | 'L' => .casing .lower :: insertions fuel rest
    | 'U' => .casing .upper :: insertions fuel rest
    | 'E' => .casing .kept :: insertions fuel rest
    | 'l' => .nextCasing .lower :: insertions fuel rest
    | 'u' => .nextCasing .upper :: insertions fuel rest
    | 'n' => .text ['\n'] :: insertions fuel rest
    | c =>
      if c.isDigit then .group (c.toNat - '0'.toNat) :: insertions fuel rest
      else .text [c] :: insertions fuel rest
  | fuel + 1, '&' :: rest => .group 0 :: insertions fuel rest
  | fuel + 1, c :: rest => .text [c] :: insertions fuel rest

/-- Reads the letters after a substitution; says whether case is told apart and whether
    each line counts, too. -/
def flags : (fuel : Nat) → (numbered : Bool) → Substitution → (fold multiline : Bool) →
    Reading (Substitution × Bool × Bool)
  | 0, _, s, fold, multiline => return (s, fold, multiline)
  | fuel + 1, numbered, s, fold, multiline => do
    match ← next with
    | some 'i' | some 'I' => flags fuel numbered s true multiline
    | some 'm' | some 'M' => flags fuel numbered s fold true
    | some 'e' => flags fuel numbered s fold multiline
    | some 'p' =>
      if s.prints ≠ 0 then fail .severalPrints
      flags fuel numbered { s with prints := 1 } fold multiline
    | some 'g' =>
      if s.all then fail .severalAll
      flags fuel numbered { s with all := true } fold multiline
    | some 'w' => return ({ s with output := some (← fileName) }, fold, multiline)
    | some '}' =>
      putBack (some '}')
      return (s, fold, multiline)
    | some '#' =>
      putBack (some '#')
      return (s, fold, multiline)
    | none | some '\n' | some ';' => return (s, fold, multiline)
    | some c =>
      if isBlank c || c = '\r' then flags fuel numbered s fold multiline
      else if c.isDigit then
        if numbered then fail .severalNumbers
        let n ← number (some c)
        if n = 0 then fail .zeroNumber
        flags fuel true { s with first := n } fold multiline
      else fail .badFlag

/-- Reads a substitution. -/
def substitution : Reading Action := do
  match ← next with
  | none | some '\n' | some '\\' => fail .openSubstitution
  | some mark =>
    match ← delimited mark true with
    | none => fail .openSubstitution
    | some source =>
      match ← delimited mark false with
      | none => fail .openSubstitution
      | some target =>
        let parts := insertions target.length (unescape ['&', '\\'] target.length target)
        let start : Substitution := { pattern := none, insertions := parts }
        let (s, fold, multiline) ← flags ((← get).rest.length + 1) false start false false
        let r ← pattern source fold multiline
        let groups := parts.foldl (fun n p => match p with | .group m => max n m | _ => n) 0
        match r with
        | some r => if r.groupCount < groups then fail (.noSuchGroup groups)
        | none => pure ()
        return .substitute { s with pattern := r }

/-- The letters of an exchange; none if a control character is begun at the end. -/
def letters (text : Bytes) : Option Bytes :=
  go text.length (unescape ['\\'] text.length text)
where
  /-- Reads the escapes that are left: the backslash goes. -/
  go : Nat → Bytes → Option Bytes
    | 0, _ | _, [] => some []
    | _, ['\\', 'c'] => none
    | fuel + 1, '\\' :: 'n' :: rest => (go fuel rest).map ('\n' :: ·)
    | fuel + 1, '\\' :: c :: rest => (go fuel rest).map (c :: ·)
    | fuel + 1, c :: rest => (go fuel rest).map (c :: ·)

/-- Reads an exchange of letters. -/
def exchange : Reading Action := do
  match ← next with
  | none => fail .openExchange
  | some mark =>
    match ← delimited mark false with
    | none => fail .openExchange
    | some source =>
      match ← delimited mark false with
      | none => fail .openExchange
      | some target =>
        match letters source, letters target with
        | some source, some target =>
          if source.length ≠ target.length then fail .unequalLetters
          endOfCommand
          return .exchangeLetters source target
        | _, _ => fail .unequalLetters

/-- Adds a command; gives its number. -/
def add (s : Scope) (a : Action) : Reading Nat :=
  modifyGet fun d => (d.commands.size, { d with commands := d.commands.push ⟨s, a⟩ })

/-- Reads a command that is one letter. -/
def single (s : Scope) (a : Action) : Reading Unit := do
  endOfCommand
  let _ ← add s a

/-- Reads a command that adds lines. -/
def adding (s : Scope) (make : Bytes → Action) : Reading Unit := do
  match ← text with
  | some t =>
    let _ ← add s (make t)
  | none =>
    let n ← add s (make [])
    modify fun d => { d with awaiting := some n }

/-- Reads a command whose first character has been read. -/
def command (s : Scope) (c : Option Char) : Reading Unit := do
  match c with
  | none => fail .missingCommand
  | some '#' =>
    if s.start.isSome then fail .addressedComment
    let d ← get
    let first : Bool := d.commands.isEmpty && d.consumed = 1 && (match d.part with | .text n _ => n = 1 | .file _ _ => true)
    if first && d.rest.head? = some 'n' then modify fun d => { d with quiet := true }
    let _ ← takeWhile (· ≠ '\n')
    let _ ← next
  | some 'v' =>
    let _ ← label false
  | some '{' =>
    let here ← spot
    let n ← add s (.enter 0)
    let here : Spot :=
      match here with
      | .text k _ => .text k 0
      | other => other
    modify fun d => { d with blocks := (n, here) :: d.blocks }
  | some '}' =>
    match (← get).blocks with
    | [] => fail .closedBrace
    | (n, _) :: blocks =>
      if s.start.isSome then fail .addressedBrace
      endOfCommand
      let stop ← add {} .leave
      modify fun d => { d with
        blocks := blocks
        commands := d.commands.modify n fun c => { c with action := .enter stop } }
  | some ':' =>
    if s.start.isSome then fail .addressedLabel
    let name ← label false
    if name.isEmpty then fail .noLabel
    modify fun d => { d with labels := (name, d.commands.size) :: d.labels }
  | some 'b' =>
    let _ ← add s (.jump .always (← label true) 0)
  | some 't' =>
    let _ ← add s (.jump .replaced (← label true) 0)
  | some 'T' =>
    let _ ← add s (.jump .notReplaced (← label true) 0)
  | some 'a' => adding s .append
  | some 'i' => adding s .insert
  | some 'c' => adding s .change
  | some 'q' => quitting true
  | some 'Q' => quitting false
  | some 'l' | some 'L' =>
    let width ← argument
    single s (.list width)
  | some '=' => single s .lineNumber
  | some 'd' => single s .delete
  | some 'D' => single s .deleteFirst
  | some 'F' => single s .fileName
  | some 'g' => single s .get
  | some 'G' => single s .getMore
  | some 'h' => single s .hold
  | some 'H' => single s .holdMore
  | some 'x' => single s .exchange
  | some 'n' => single s .next
  | some 'N' => single s .nextMore
  | some 'p' => single s .print
  | some 'P' => single s .printFirst
  | some 'z' => single s .clear
  | some 'r' =>
    let _ ← add s (.readFile (← fileName))
  | some 'R' =>
    let _ ← add s (.readLine (← fileName))
  | some 'w' =>
    let _ ← add s (.writeFile (← fileName))
  | some 'W' =>
    let _ ← add s (.writeFirst (← fileName))
  | some 's' =>
    let _ ← add s (← substitution)
  | some 'y' =>
    let _ ← add s (← exchange)
  | some c => fail (.unknownCommand c)
where
  /-- Reads a number after a command, if there is one. -/
  argument : Reading (Option Nat) := do
    match ← nextVisible with
    | some c =>
      if c.isDigit then return some (← number (some c))
      putBack (some c)
      return none
    | none => return none
  /-- Reads a command that quits. -/
  quitting (printing : Bool) : Reading Unit := do
    if s.stop.isSome then fail .oneAddress
    let status ← argument
    single s (.quit printing (status.getD 0))

/-- Reads the commands of a part. -/
def commands : (fuel : Nat) → Reading Unit
  | 0 => return
  | fuel + 1 => do
    let _ ← takeWhile fun c => c = ';' || Bytes.isSpace c
    match ← next with
    | none => return
    | c => do
      let (s, c) ← scope c
      command s c
      commands fuel

/-- Reads a part: first the text that the part before it has left to come. -/
def part (p : Part) : Reading Unit := do
  let t :=
    match p with
    | .text _ t | .file _ t => t
  modify fun d => { d with rest := t, consumed := 0, line := 1, part := p }
  match (← get).awaiting with
  | some n =>
    let text := textOf (← lines (t.length + 1) []).1
    modify fun d => { d with
      awaiting := none
      commands := d.commands.modify n fun c => { c with action := withText text c.action } }
  | none => pure ()
  commands (t.length + 1)
where
  /-- A command that adds lines, with these lines. -/
  withText (text : Bytes) : Action → Action
    | .append _ => .append text
    | .insert _ => .insert text
    | .change _ => .change text
    | other => other

end Reading

/-- A script: its commands, and whether nothing is printed unless asked for. -/
structure Script where
  commands : Array Command
  quiet : Bool

/-- Why there is no script. -/
inductive ScriptFault where
  | at (spot : Spot) (fault : Fault)
  | noSuchLabel (name : Bytes)

/-- The commands of a script; jumps without a label lead to its end. -/
def Script.read? (extended : Bool) (parts : List Part) : Except ScriptFault Script :=
  match (parts.forM Reading.part).run { extended := extended } with
  | .error (spot, fault) => .error (.at spot fault)
  | .ok (_, d) =>
    match d.blocks with
    | (_, spot) :: _ => .error (.at spot .openBrace)
    | [] =>
      let resolve (c : Command) : Except ScriptFault Command :=
        match c.action with
        | .jump test name _ =>
          if name.isEmpty then .ok { c with action := .jump test name d.commands.size }
          else
            match d.labels.lookup name with
            | some target => .ok { c with action := .jump test name target }
            | none => .error (.noSuchLabel name)
        | _ => .ok c
      match d.commands.toList.mapM resolve with
      | .ok commands => .ok ⟨commands.toArray, d.quiet⟩
      | .error e => .error e

end Lifelines.Editor
