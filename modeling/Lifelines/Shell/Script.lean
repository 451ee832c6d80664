import Lifelines.Shell.Words

/-!
# Commands of a script

A script is read one list of commands at a time: what is on a line, and on more
lines if a command is not finished at the end of the line. So what has been read
is run before the rest is looked at.

* `readNext`: the next list of commands of a script;
* `ScriptFault.lines`: what is said about a script that cannot be read.
-/

namespace Lifelines.Shell

/-- The words with a meaning of their own. -/
def keywords (dialect : Dialect) : List String :=
  ["!", "case", "do", "done", "elif", "else", "esac", "fi", "for", "if", "in", "then", "until",
    "while", "\x7b", "\x7d"] ++ (if dialect = .plain then [] else ["[[", "function"])

/-! ### Tokens -/

/-- The operators that start with a sign, the longer ones first. -/
def operators : Dialect → List String
  | .plain => ["&&", "||", ";;", "&", "|", ";", "(", ")"]
  | .extended => ["&&", "||", "|&", ";;&", ";;", ";&", "&", "|", ";", "(", ")"]

/-- The operators of redirections, the longer ones first. -/
def redirectOperators (dialect : Dialect) : List String :=
  (if dialect = .plain then [] else ["&>>", "&>", "<<<"]) ++
    ["<<-", "<<", "<&", "<>", "<", ">>", ">&", ">|", ">"]

/-- Reads the first operator that is there. -/
def acceptFirst : List String → Reading (Option String)
  | [] => return none
  | s :: rest => do if ← Reading.accept s then return some s else acceptFirst rest

/-- Passes over blanks and comments. -/
def skipBlanks : Reading Unit :=
  Reading.repeatedly (fun (_ : Unit) => do
    let _ ← Reading.takeWhile fun c => c = ' ' || c = '\t'
    if ← Reading.accept "\\\n" then return .inl ()
    if (← Reading.peek) = some '#' then
      let _ ← Reading.takeWhile (· ≠ '\n')
      return .inl ()
    return .inr ()) ()

/-- Reads a token as it is written. -/
def readWritten (nested : Nested) (place : Place) : Reading Token := do
  skipBlanks
  let dialect := (← get).dialect
  match ← Reading.peek with
  | none => return .endOfFile
  | some '\n' =>
    let _ ← Reading.next
    return .newline
  | some _ =>
    let channel := dialect = .extended &&
      (let rest := (← get).rest; "<(".toList.isPrefixOf rest || ">(".toList.isPrefixOf rest)
    if !channel then
      if let some op ← acceptFirst (redirectOperators dialect) then return .redirect none op
    if let some s ← acceptFirst (operators dialect) then return .sign s
    let digits := (← get).rest.takeWhile Char.isDigit
    let fits := digits.length = 1 || (dialect = .extended && !digits.isEmpty)
    match (← get).rest[digits.length]? with
    | some c =>
      if fits && (c = '<' || c = '>') then
        let _ ← Reading.takeWhile Char.isDigit
        if let some op ← acceptFirst (redirectOperators dialect) then
          return .redirect (Bytes.toNat? digits) op
    | none => pure ()
    let word ← nested.word place
    return .word word ((plainText? word).isNone)

/-- Reads the lines of a here text, up to the mark. -/
def readHereLines (p : PendingText) : Reading Bytes :=
  Reading.repeatedly (fun (text : List Bytes) => do
    let line ← Reading.takeWhile (· ≠ '\n')
    let ended ← Reading.accept "\n"
    let line := if p.indented then line.dropWhile (· = '\t') else line
    if line = p.mark || (!ended && line.isEmpty) then return .inr text.reverse.flatten
    else if ended then return .inl ((line ++ ['\n']) :: text)
    else return .inr (line :: text).reverse.flatten) []

/-- Reads the here texts that are still to be read. -/
def readHereTexts (nested : Nested) : Reading Unit := do
  let pending := (← get).pending
  modify fun s => { s with pending := [] }
  for p in pending do
    let line := (← get).line
    let text ← readHereLines p
    let body ← if p.quoted then pure [Piece.text true text]
      else Reading.within text line (nested.word .here)
    modify fun s => { s with texts := ⟨p.number, body⟩ :: s.texts }

/-- A word with a meaning of its own, if it is one. -/
def Token.asKeyword (dialect : Dialect) (t : Token) : Token :=
  match t with
  | .word pieces false =>
    match (plainText? pieces).map String.ofList with
    | some name => if (keywords dialect).contains name then .keyword name else t
    | none => t
  | t => t

/-- Reads the next token, at a place. -/
def readTokenAt (nested : Nested) (place : Place) : Reading Token :=
  Reading.repeatedly (fun (_ : Unit) => do
    let s ← get
    let t ←
      if s.putBack then do
        set { s with putBack := false }
        pure s.last
      else readWritten nested place
    modify fun s => { s with last := t }
    match t with
    | .newline =>
      if s.use.newlines then
        readHereTexts nested
        return .inl ()
      else finish t
    | .word pieces _ =>
      let t := if s.use.keywords then t.asKeyword s.dialect else t
      match t, plainText? pieces with
      | .word _ _, some name =>
        match s.use.aliases, s.aliases.lookup name with
        | true, some value =>
          -- an alias is not looked up again in what it stands for
          modify fun s => { s with
            rest := value ++ s.rest, aliases := s.aliases.filter fun a => a.1 ≠ name }
          return .inl ()
        | _, _ => finish t
      | t, _ => finish t
    | t => finish t) ()
where
  /-- Takes a token. -/
  finish (t : Token) : Reading (Unit ⊕ Token) := do
    modify fun s => { s with last := t, use := {} }
    return .inr t

/-- Reads the next token. -/
def readToken (nested : Nested) : Reading Token :=
  readTokenAt nested .plain

/-- Reads a token that has to come. -/
def expect (nested : Nested) (t : Token) : Reading Unit := do
  let found ← readToken nested
  let same :=
    match found, t with
    | .sign a, .sign b => a = b
    | .keyword a, .keyword b => a = b
    | _, _ => false
  if !same then Reading.unexpected (some t)

/-! ### Commands -/

/-- Where newlines do not count and a command may start. -/
def startUse : TokenUse := ⟨true, true, true⟩

/-- The readers for what is inside a command. -/
structure Grammar extends Nested where
  /-- A list of commands; whether there has to be one. -/
  list : Bool → Reading Command
  /-- A command. -/
  command : Reading Command

/-- The redirection that an operator and a word make. -/
def readRedirect (nested : Nested) (stream : Option Nat) (operator : String) :
    Reading Redirect := do
  let input := operator.toList.head? = some '<'
  let stream := stream.getD (if input then 0 else 1)
  if operator = "<<" || operator = "<<-" then
    match ← readTokenAt nested .mark with
    | .word pieces quoted =>
      let mark := pieces.flatMap fun
        | .text _ chars => chars
        | _ => []
      modify fun s => { s with
        pending := s.pending ++ [⟨s.nextText, mark, quoted, operator = "<<-"⟩]
        nextText := s.nextText + 1 }
      return .mk stream (.hereText ((← get).nextText - 1)) []
    | _ => Reading.unexpected
  else
    match ← readToken nested with
    | .word pieces _ =>
      let kind : RedirectKind :=
        match operator with
        | "<" => .input
        | ">" => .output
        | ">|" => .overwrite
        | ">>" => .append
        | "<>" => .readWrite
        | "<<<" => .hereWord
        | "&>" => .both
        | "&>>" => .bothAppend
        | _ => .copy
      if kind = .copy && (← get).dialect = .plain then
        if let some text := plainText? pieces then
          if !(text = ['-'] || (text.length = 1 && text.all Char.isDigit)) then
            Reading.fail .badStream
      return .mk stream kind pieces
    | _ => Reading.unexpected

/-- Reads redirections; the token after them is put back. -/
def readRedirects (nested : Nested) : Reading (List Redirect) := do
  Reading.setUse ⟨false, true, true⟩
  Reading.repeatedly (fun (redirects : List Redirect) => do
    match ← readToken nested with
    | .redirect stream operator =>
      return .inl ((← readRedirect nested stream operator) :: redirects)
    | _ =>
      Reading.putBack
      return .inr redirects.reverse) []

/-- Cuts a word at the first place where one of its unquoted texts has a sign. -/
def cutWord (sign : Bytes) : Word → Option (Word × Word)
  | [] => none
  | .text false chars :: rest =>
    match cutText chars with
    | some (before, after) =>
      some (if before.isEmpty then [] else [.text false before],
        if after.isEmpty then rest else .text false after :: rest)
    | none => (cutWord sign rest).map fun (a, b) => (.text false chars :: a, b)
  | p :: rest => (cutWord sign rest).map fun (a, b) => (p :: a, b)
where
  /-- Cuts a text. -/
  cutText : Bytes → Option (Bytes × Bytes)
    | [] => none
    | c :: rest =>
      match Bytes.dropStart? sign (c :: rest) with
      | some after => some ([], after)
      | none => (cutText rest).map fun (a, b) => (c :: a, b)

/-- The assignment that a word is, if it is one. -/
def assignment? (dialect : Dialect) (w : Word) : Option Assignment :=
  match w with
  | .text false chars :: rest =>
    let name := chars.takeWhile inName
    if !isName name then none
    else
      let value (after : Bytes) : Word := if after.isEmpty then rest else .text false after :: rest
      match chars.drop name.length with
      | '=' :: after => some (.word name .none false (value after))
      | '+' :: '=' :: after => if dialect = .extended then some (.word name .none true (value after)) else none
      | '[' :: after =>
        if dialect = .plain then none
        else
          match cutWord ['=' ] (value after) with
          | some (index, body) =>
            match index.getLast? with
            | some (.text false last) =>
              let append := last.getLast? = some '+'
              let last := if append then last.dropLast else last
              if last.getLast? = some ']' then
                some (.word name (.item (index.dropLast ++ [.text true last.dropLast])) append body)
              else none
            | _ => none
          | none => none
      | _ => none
  | _ => none

/-- Reads the values of a list, after the opening parenthesis. -/
def readValues (nested : Nested) : Reading (List (Index × Word)) :=
  Reading.repeatedly (fun (values : List (Index × Word)) => do
    Reading.setUse ⟨true, false, false⟩
    match ← readToken nested with
    | .word pieces _ =>
      match pieces with
      | .text false ('[' :: after) :: rest =>
        match cutWord [']', '='] (.text false after :: rest) with
        | some (index, body) => return .inl ((.item index, body) :: values)
        | none => return .inl ((.none, pieces) :: values)
      | _ => return .inl ((.none, pieces) :: values)
    | .sign ")" => return .inr values.reverse
    | _ => Reading.unexpected) []

/-- A simple command that is being read; its parts in reverse order. -/
structure Simple where
  assignments : List Assignment := []
  words : List Word := []
  redirects : List Redirect := []

/-- Reads a function, after its name. -/
def readFunction (g : Grammar) (name : Bytes) : Reading Command := do
  Reading.setUse startUse
  let line := (← get).line
  return .function line name (← g.command)

/-- The commands that are no names for a function. -/
def specialNames : List String :=
  [".", ":", "break", "continue", "eval", "exec", "exit", "export", "local", "readonly", "return", "set",
    "shift", "times", "trap", "unset"]

/-- The commands whose arguments may be lists. -/
def declaringNames : List String :=
  ["declare", "typeset", "local", "readonly", "export"]

/-- Reads a simple command or a function; its first token has been put back. -/
def readSimple (g : Grammar) : Reading Command := do
  let nested := g.toNested
  let line := (← get).line
  let dialect := (← get).dialect
  Reading.repeatedly (fun (c : Simple) => do
    let finish : Reading (Simple ⊕ Command) := do
      Reading.putBack
      return .inr (.simple line c.assignments.reverse c.words.reverse c.redirects.reverse)
    if c.words.isEmpty then Reading.setUse ⟨false, false, true⟩
    match ← readToken nested with
    | .word pieces _ =>
      let declares := (c.words.getLast?.bind plainText?).any fun n =>
        declaringNames.contains (String.ofList n)
      match assignment? dialect pieces with
      | some a =>
        let list? ←
          match a with
          | .word name .none append [] =>
            if dialect = .extended && (← Reading.peek) = some '(' && (c.words.isEmpty || declares)
            then do
              let _ ← Reading.next
              pure (some (Assignment.list name append (← readValues nested)))
            else pure none
          | _ => pure none
        match list?, a with
        | some l, .word name _ _ _ =>
          let words := if c.words.isEmpty then [] else [.text false name] :: c.words
          return .inl { c with assignments := l :: c.assignments, words := words }
        | _, _ =>
          if c.words.isEmpty then return .inl { c with assignments := a :: c.assignments }
          else return .inl { c with words := pieces :: c.words }
      | none => return .inl { c with words := pieces :: c.words }
    | .redirect stream operator =>
      let r ← readRedirect nested stream operator
      return .inl { c with redirects := r :: c.redirects }
    | .sign "(" =>
      match c with
      | ⟨[], [word], []⟩ =>
        expect nested (.sign ")")
        match plainText? word with
        | some name =>
          let good := if dialect = .extended then !name.isEmpty else
            isName name && !specialNames.contains (String.ofList name)
          if good then return .inr (← readFunction g name) else Reading.fail .badFunctionName
        | none => Reading.fail .badFunctionName
      | _ => finish
    | _ => finish) {}

/-- Reads the words that a variable goes through; answers also the token after them. -/
def readForWords (nested : Nested) : Reading (List Word × Token) :=
  Reading.repeatedly (fun (words : List Word) => do
    match ← readToken nested with
    | .word pieces _ => return .inl (pieces :: words)
    | t => return .inr (words.reverse, t)) []

/-- Cuts the expressions of a loop over numbers at the semicolons. -/
def cutSum (w : Word) : List Word :=
  w.foldr (fun p pieces =>
    match p with
    | .text q chars =>
      match (Bytes.splitOn ';' chars).map fun t => [Piece.text q t], pieces with
      | [part], first :: rest => (part ++ first) :: rest
      | parts, first :: rest =>
        parts.dropLast ++ (((parts.getLast?).getD [] ++ first) :: rest)
      | parts, [] => parts
    | p =>
      match pieces with
      | first :: rest => (p :: first) :: rest
      | [] => [[p]]) [[]]

/-- Reads the body of a loop, with what starts and ends it. -/
def readLoopBody (g : Grammar) : Reading Command := do
  expect g.toNested (.keyword "do")
  let body ← g.list true
  expect g.toNested (.keyword "done")
  return body

/-- Reads a loop over words or numbers, after its first word. -/
def readFor (g : Grammar) : Reading Command := do
  let nested := g.toNested
  let line := (← get).line
  skipBlanks
  if ← Reading.acceptExtended "((" then
    match cutSum (← nested.word .sum) with
    | [first, test, next] =>
      Reading.setUse startUse
      if (← readToken nested).isSign ";" then Reading.setUse startUse
      else
        Reading.putBack
        Reading.setUse startUse
      return .forNumbers line first test next (← readLoopBody g)
    | _ => Reading.unexpected
  else
    match ← readToken nested with
    | .word pieces _ =>
      match plainText? pieces with
      | some name =>
        if !isName name then Reading.fail .badLoopVariable
        Reading.setUse startUse
        let t ← readToken nested
        let words ←
          if t.isKeyword "in" then do
            let (words, t) ← readForWords nested
            match t with
            | .newline => pure ()
            | t => if !t.isSign ";" then Reading.unexpected
            pure (some words)
          else do
            if !t.isSign ";" then Reading.putBack
            pure none
        Reading.setUse startUse
        return .forEach line name words (← readLoopBody g)
      | none => Reading.fail .badLoopVariable
    | _ => Reading.fail .badLoopVariable

/-- Reads the patterns of a clause, the first token of which is the last one read. -/
def readPatterns (nested : Nested) : Reading (List Word) :=
  Reading.repeatedly (fun (patterns : List Word) => do
    let pattern ←
      match (← get).last with
      | .word pieces _ => pure pieces
      | .keyword name => pure [Piece.text false name.toList]
      | _ => Reading.unexpected
    let t ← readToken nested
    if t.isSign "|" then
      let _ ← readToken nested
      return .inl (pattern :: patterns)
    else if t.isSign ")" then return .inr (pattern :: patterns).reverse
    else Reading.unexpected (some (.sign ")"))) []

/-- Reads a choice between patterns, after its first word. -/
def readCase (g : Grammar) (line : Nat) : Reading Command := do
  let nested := g.toNested
  match ← readToken nested with
  | .word word _ =>
    Reading.setUse startUse
    expect nested (.keyword "in")
    Reading.setUse ⟨true, true, false⟩
    let _ ← readToken nested
    let clauses ← Reading.repeatedly (fun (clauses : List Clause) => do
      if (← get).last.isKeyword "esac" then return .inr clauses.reverse
      if (← get).last.isSign "(" then
        let _ ← readToken nested
      let patterns ← readPatterns nested
      let body ← g.list false
      Reading.setUse ⟨true, true, false⟩
      let t ← readToken nested
      if t.isKeyword "esac" then return .inl (.mk patterns body false :: clauses)
      else
        let goesOn := t.isSign ";&"
        if t.isSign ";;" || goesOn || t.isSign ";;&" then
          Reading.setUse ⟨true, true, false⟩
          let _ ← readToken nested
          return .inl (.mk patterns body goesOn :: clauses)
        else Reading.unexpected (some (.sign ";;"))) []
    return .case line word clauses
  | _ => Reading.unexpected (some (.word [] false))

/-- The end of a choice: its tests and bodies put together. -/
def joinBranches (branches : List (Command × Command)) (otherwise : Command) : Command :=
  branches.foldl (fun rest (test, body) => .ifThen test body rest) otherwise

/-- Reads a choice between conditions, after its first word. -/
def readIf (g : Grammar) : Reading Command := do
  let nested := g.toNested
  let branch : Reading (Command × Command) := do
    let test ← g.list true
    expect nested (.keyword "then")
    return (test, ← g.list true)
  let first ← branch
  let c ← Reading.repeatedly (fun (branches : List (Command × Command)) => do
    let t ← readToken nested
    if t.isKeyword "elif" then return .inl ((← branch) :: branches)
    else if t.isKeyword "else" then return .inr (joinBranches branches (← g.list true))
    else
      Reading.putBack
      return .inr (joinBranches branches .nothing)) [first]
  expect nested (.keyword "fi")
  return c

/-! ### Conditions of the extended shell -/

/-- The operators that compare two words. -/
def comparison? (name : String) : Option Comparison :=
  match name with
  | "=" | "==" => some .fits
  | "!=" => some .fitsNot
  | "=~" => some .matches
  | "-eq" | "-ne" | "-lt" | "-le" | "-gt" | "-ge" | "-nt" | "-ot" | "-ef" =>
    some (.named name.toList)
  | _ => none

/-- The operators that test one word. -/
def isTest (name : Bytes) : Bool :=
  match name with
  | ['-', c] => "bcdefghknoprstuvwxzGLNOSR".toList.contains c
  | _ => false

/-- Reads a test of words, the first of which is the last token read. -/
def readTest (nested : Nested) : Reading Condition := do
  match (← get).last with
  | .word left _ =>
    let name := plainText? left
    let use : TokenUse := ⟨false, false, false⟩
    Reading.setUse use
    match name with
    | some name =>
      if isTest name then
        match ← readToken nested with
        | .word w _ =>
          if (plainText? w) = some [']', ']'] then
            Reading.putBack
            return .word left
          return .single name w
        | _ =>
          Reading.putBack
          return .word left
    | none => pure ()
    match ← readToken nested with
    | .redirect _ "<" => return .compare .less left (← operand)
    | .redirect _ ">" => return .compare .greater left (← operand)
    | .word w _ =>
      match (plainText? w).bind fun n => comparison? (String.ofList n) with
      | some .matches =>
        skipBlanks
        return .compare .matches left (← nested.word .expression)
      | some op => return .compare op left (← operand)
      | none =>
        Reading.putBack
        return .word left
    | _ =>
      Reading.putBack
      return .word left
  | _ => Reading.unexpected
where
  /-- Reads a word. -/
  operand : Reading Word := do
    match ← readToken nested with
    | .word w _ => return w
    | _ => Reading.unexpected

/-- Reads a condition; at most `fuel` conditions are inside each other. -/
def readCondition (nested : Nested) : (fuel : Nat) → Reading Condition
  | 0 => Reading.unexpected
  | fuel + 1 => do
    let single : Reading Condition := do
      Reading.setUse ⟨true, true, false⟩
      let t ← readToken nested
      if t.isKeyword "!" then return .not (← readCondition nested fuel)
      else if t.isSign "(" then
        let c ← readCondition nested fuel
        Reading.setUse ⟨true, false, false⟩
        expect nested (.sign ")")
        return c
      else readTest nested
    let left ← single
    Reading.setUse ⟨true, false, false⟩
    let t ← readToken nested
    if t.isSign "&&" then
      match ← readCondition nested fuel with
      -- the choice binds weaker, so its first part is what this one goes with
      | .either a b => return .either (.both left a) b
      | c => return .both left c
    else if t.isSign "||" then return .either left (← readCondition nested fuel)
    else
      Reading.putBack
      return left

/-- Reads a condition in double brackets, after the opening ones. -/
def readBrackets (nested : Nested) : Reading Condition := do
  let c ← readCondition nested ((← get).rest.length + 1)
  match ← readToken nested with
  | .word pieces _ =>
    if plainText? pieces = some [']', ']'] then return c else Reading.unexpected
  | _ => Reading.unexpected

/-! ### Lists -/

/-- Adds redirections to a command. -/
def withRedirects (line : Nat) (redirects : List Redirect) (c : Command) : Command :=
  if redirects.isEmpty then c
  else
    match c with
    | .subshell line body _ => .subshell line body redirects
    | c => .redirected line c redirects

/-- Reads a command. -/
def readCommand (g : Grammar) : Reading Command := do
  let nested := g.toNested
  let line := (← get).line
  let finish (c : Command) : Reading Command := do
    return withRedirects line (← readRedirects nested) c
  match ← readToken nested with
  | .keyword "if" => finish (← readIf g)
  | .keyword "while" => finish (← loop false)
  | .keyword "until" => finish (← loop true)
  | .keyword "for" => finish (← readFor g)
  | .keyword "case" => finish (← readCase g line)
  | .keyword "\x7b" =>
    let body ← g.list true
    expect nested (.keyword "\x7d")
    finish body
  | .keyword "[[" => finish (.condition line (← readBrackets nested))
  | .keyword "function" =>
    match ← readToken nested with
    | .word pieces _ =>
      let name := (plainText? pieces).getD []
      skipBlanks
      let _ ← Reading.accept "()"
      readFunction g name
    | _ => Reading.unexpected
  | .sign "(" =>
    if ← Reading.acceptExtended "(" then
      finish (.expression line (← nested.word .sum))
    else
      let body ← g.list true
      expect nested (.sign ")")
      finish (.subshell line body [])
  | .word _ _ | .redirect _ _ =>
    Reading.putBack
    readSimple g
  | _ => Reading.unexpected
where
  /-- Reads a loop with a condition. -/
  loop (untilTrue : Bool) : Reading Command := do
    let test ← g.list true
    return .loop untilTrue test (← readLoopBody g)

/-- A command whose second output goes where its first one goes. -/
def withBothOutputs (c : Command) : Command :=
  let copy : Redirect := .mk 2 .copy [.text false ['1']]
  match c with
  | .simple line assignments words redirects => .simple line assignments words (redirects ++ [copy])
  | c => withRedirects 1 [copy] c

/-- Reads commands with signs for pipes between them. -/
def readPipeline (g : Grammar) : Reading Command := do
  let nested := g.toNested
  let negated := (← readToken nested).isKeyword "!"
  if negated then Reading.setUse ⟨false, true, true⟩ else Reading.putBack
  let first ← g.command
  let stages ← Reading.repeatedly (fun (stages : List Command) => do
    match ← readToken nested with
    | .sign "|" =>
      Reading.setUse startUse
      return .inl ((← g.command) :: stages)
    | .sign "|&" =>
      Reading.setUse startUse
      return .inl ((← g.command) :: (stages.head?.map withBothOutputs).toList ++ stages.drop 1)
    | _ =>
      Reading.putBack
      return .inr stages.reverse) [first]
  let c : Command :=
    match stages with
    | [c] => c
    | stages => .pipeline stages
  return if negated then .negated c else c

/-- Reads pipelines, each of which may depend on the one before it. -/
def readAndOr (g : Grammar) : Reading Command := do
  let nested := g.toNested
  let first ← readPipeline g
  Reading.repeatedly (fun (c : Command) => do
    match ← readToken nested with
    | .sign "&&" =>
      Reading.setUse startUse
      return .inl (.andThen c (← readPipeline g))
    | .sign "||" =>
      Reading.setUse startUse
      return .inl (.orElse c (← readPipeline g))
    | _ =>
      Reading.putBack
      return .inr c) first

/-- Whether a token ends a list of commands. -/
def endsList : Token → Bool
  | .endOfFile => true
  | .sign s => s = ")" || s = ";;" || s = ";&" || s = ";;&"
  | .keyword k => ["do", "done", "elif", "else", "esac", "fi", "then", "\x7d"].contains k
  | _ => false

/-- A command after what has been read. -/
def after (done : Option Command) (c : Command) : Command :=
  match done with
  | none => c
  | some first => .sequence first c

/-- Reads a list of commands: up to the end of the line, or over lines up to what
    cannot go on with it. Nothing is left at the end of the script. -/
def readList (g : Grammar) (line needed : Bool) : Reading (Option Command) := do
  let nested := g.toNested
  Reading.repeatedly (fun (done : Option Command) => do
    Reading.setUse ⟨!line, true, true⟩
    match ← readToken nested with
    | .newline =>
      readHereTexts nested
      return .inr (some (done.getD .nothing))
    | .endOfFile =>
      readHereTexts nested
      Reading.putBack
      return .inr (if line then done else some (done.getD .nothing))
    | t =>
      Reading.putBack
      if !line && (done.isSome || !needed) && endsList t then
        return .inr (some (done.getD .nothing))
      let c ← readAndOr g
      match ← readToken nested with
      | .sign "&" => return .inl (some (after done (.background (← get).line c)))
      | .sign ";" => return .inl (some (after done c))
      | .newline | .endOfFile =>
        Reading.putBack
        return .inl (some (after done c))
      | _ =>
        if line then Reading.unexpected
        Reading.putBack
        return .inr (some (after done c))) none

/-- The readers for scripts whose parts are at most `fuel` deep inside each other. -/
def grammar : (fuel : Nat) → Grammar
  | 0 =>
    { commands := Reading.unexpected, word := fun _ => Reading.unexpected
      list := fun _ => Reading.unexpected, command := Reading.unexpected }
  | fuel + 1 =>
    { commands := fun s => (do
        let c ← readList (grammar fuel) false false
        return c.getD .nothing : Reading Command) s
      word := fun place s => readWord (grammar fuel).toNested place s
      list := fun needed s => (do
        let c ← readList (grammar fuel) false needed
        return c.getD .nothing : Reading Command) s
      command := fun s => readCommand (grammar fuel) s }

/-- Reads the next list of commands of a script; nothing is left at its end. -/
def readNext : Reading (Option Command) := do
  modify fun s => { s with putBack := false, use := {} }
  readList (grammar (3 * (← get).rest.length + 8)) true true

/-- What is said about a fault of a script. -/
def ScriptFault.lines (dialect : Dialect) (f : ScriptFault) (script : Bytes) : List Bytes :=
  match dialect with
  | .plain => [("Syntax error: " ++ plain).toList]
  | .extended =>
    match f.kind with
    | .unexpected .endOfFile _ => ["syntax error: unexpected end of file".toList]
    | .openQuote mark => ["unexpected EOF while looking for matching \x60".toList ++ [mark, '\'']]
    | .openBrace => ["unexpected EOF while looking for matching \x60\x7d'".toList]
    | .openSum => ["unexpected EOF while looking for matching \x60)'".toList]
    | .openBackquote => ["unexpected EOF while looking for matching \x60\x60'".toList]
    | .unexpected t _ =>
      let line := ((Bytes.lines script)[f.line - 1]?).getD []
      ["syntax error near unexpected token \x60".toList ++ tokenText t ++ ['\''],
        ['\x60'] ++ line ++ ['\'']]
    | .badLoopVariable => ["\x60': not a valid identifier".toList]
    | .badFunctionName => ["syntax error near unexpected token \x60('".toList]
    | .badStream => ["ambiguous redirect".toList]
where
  /-- The words of the plain shell. -/
  plain : String :=
    match f.kind with
    | .unexpected found none => found.description ++ " unexpected"
    | .unexpected found (some e) =>
      found.description ++ " unexpected (expecting " ++ e.description ++ ")"
    | .openQuote _ => "Unterminated quoted string"
    | .openBrace => "Missing '\x7d'"
    | .openSum => "Missing '))'"
    | .openBackquote => "EOF in backquote substitution"
    | .badLoopVariable => "Bad for loop variable"
    | .badFunctionName => "Bad function name"
    | .badStream => "Bad fd number"
  /-- A token as it is written. -/
  tokenText : Token → Bytes
    | .newline => "newline".toList
    | .sign s | .keyword s => s.toList
    | .word pieces _ => (plainText? pieces).getD []
    | .redirect _ operator => operator.toList
    | .endOfFile => []

end Lifelines.Shell
