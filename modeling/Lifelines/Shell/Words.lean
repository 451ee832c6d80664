import Lifelines.Shell.Source
import Lifelines.Utility.Printf

/-!
# Words of a script

A word goes on until a character that cannot be in it; which these are depends on
the place. Quotes and backslashes take away the meaning of what they quote, and a
dollar sign or a backquote starts a piece that is expanded. Words and commands
are inside each other, so the readers for what is inside are arguments here.

* `Place`: where a word is;
* `readWord`: the word that is read at a place.
-/

namespace Lifelines.Shell

/-- Where a word is, which tells where it ends. -/
inductive Place where
  /-- Among the words of a command. -/
  | plain
  /-- In double quotes. -/
  | double
  /-- In braces, up to the closing one or to one of some characters. -/
  | braces (inDouble : Bool) (stops : List Char)
  /-- In an expression for a number. -/
  | sum
  /-- In a here text. -/
  | here
  /-- In the mark that ends a here text. -/
  | mark
  /-- In a condition, where a regular expression stands. -/
  | expression
  deriving DecidableEq

namespace Place

/-- Whether texts at a place are quoted. -/
def quotes : Place → Bool
  | plain | mark | expression => false
  | braces inDouble _ => inDouble
  | _ => true

/-- Whether single quotes quote at a place. -/
def knowsQuotes : Place → Bool
  | plain | mark | expression | braces false _ => true
  | _ => false

/-- Whether double quotes quote at a place. -/
def knowsDoubleQuotes : Place → Bool
  | plain | mark | expression | braces _ _ => true
  | _ => false

end Place

/-- The readers for what is inside a word. -/
structure Nested where
  /-- Commands up to a sign that cannot follow them. -/
  commands : Reading Command
  /-- A word at a place. -/
  word : Place → Reading Word

/-- A word that is being read. -/
structure Draft where
  /-- The pieces, the latest first. -/
  pieces : List Piece := []
  /-- The text that is being read, the latest character first. -/
  text : Bytes := []
  textQuoted : Bool := false
  hasText : Bool := false
  /-- Whether something has been quoted. -/
  quoted : Bool := false
  /-- How many parentheses are open. -/
  depth : Nat := 0

namespace Draft

/-- Closes the text that is being read. -/
def close (d : Draft) : Draft :=
  if d.hasText then
    { d with pieces := .text d.textQuoted d.text.reverse :: d.pieces, text := [], hasText := false }
  else d

/-- Adds a character. -/
def addChar (d : Draft) (quoted : Bool) (c : Char) : Draft :=
  if d.hasText && d.textQuoted = quoted then { d with text := c :: d.text }
  else { d.close with text := [c], textQuoted := quoted, hasText := true }

/-- Adds a piece. -/
def addPiece (d : Draft) (p : Piece) : Draft :=
  { d.close with pieces := p :: d.close.pieces }

/-- Adds a quoted text; an empty one holds its place. -/
def addQuoted (d : Draft) (text : Bytes) : Draft :=
  { d.close with pieces := .text true text :: d.close.pieces, quoted := true }

/-- The word. -/
def word (d : Draft) : Word :=
  d.close.pieces.reverse

end Draft

/-- Characters that end a word of a command. -/
def endsWord (c : Char) : Bool :=
  " \t\n;&|<>()".toList.contains c

/-- Reads what is in single quotes, after the opening one. -/
def readQuoted : Reading Bytes := do
  let text ← Reading.takeWhile (· ≠ '\'')
  match ← Reading.next with
  | some _ => return text
  | none => Reading.fail (.openQuote '\'')

/-- Reads a quoted text with escapes, after the opening quote. -/
def readEscaped : Reading Bytes := do
  let text ← Reading.repeatedly (fun (text : Bytes) => do
    match ← Reading.next with
    | none => Reading.fail (.openQuote '\'')
    | some '\'' => return .inr text.reverse
    | some '\\' =>
      match ← Reading.next with
      | some c => return .inl (c :: '\\' :: text)
      | none => return .inl ('\\' :: text)
    | some c => return .inl (c :: text)) []
  let controls := controlled text
  return (Printf.unescape .extendedShell .format (controls.length + 1) controls).1
where
  /-- Puts the characters that a control escape stands for. -/
  controlled : Bytes → Bytes
    | '\\' :: 'c' :: c :: rest => Char.ofNat (c.toUpper.toNat % 64 ||| 0) :: controlled rest
    | '\\' :: c :: rest => '\\' :: c :: controlled rest
    | c :: rest => c :: controlled rest
    | [] => []

/-- Reads what is in backquotes, after the opening one. -/
def readBackquoted (quoted : Bool) : Reading Bytes :=
  Reading.repeatedly (fun (text : Bytes) => do
    Reading.joinLines
    match ← Reading.next with
    | none => Reading.fail .openBackquote
    | some '\x60' => return .inr text.reverse
    | some '\\' =>
      match ← Reading.next with
      | some c =>
        let plain := c = '\\' || c = '\x60' || c = '$' || (quoted && c = '"')
        return .inl (if plain then c :: text else c :: '\\' :: text)
      | none => return .inl ('\\' :: text)
    | some c => return .inl (c :: text)) []

/-- The characters that stand for a parameter of their own. -/
def isSpecial (c : Char) : Bool :=
  "@*#?-$!".toList.contains c

/-- Reads the elements that are meant, after the opening bracket. -/
def readIndex (nested : Nested) : Reading Index := do
  if ← Reading.accept "@]" then return .all
  if ← Reading.accept "*]" then return .joined
  let word ← nested.word (.braces true [']'])
  let _ ← Reading.accept "]"
  return .item word

/-- Reads an index, if there is one. -/
def readIndex? (nested : Nested) : Reading Index := do
  if ← Reading.acceptExtended "[" then readIndex nested else return .none

/-- Reads the name of a parameter; nothing if there is none. -/
def readParameterName : Reading Bytes := do
  match ← Reading.peekJoined with
  | none => return []
  | some c =>
    if startsName c then Reading.takeWhile inName
    else if c.isDigit then Reading.takeWhile Char.isDigit
    else if isSpecial c then
      let _ ← Reading.next
      return [c]
    else return []

/-- Reads the rest of a piece in braces and the closing brace. -/
def readToBrace (nested : Nested) (quoted : Bool) : Reading Word := do
  let word ← nested.word (.braces quoted [])
  let _ ← Reading.accept "\x7d"
  return word

/-- Reads a change of the kinds that only the extended shell knows. -/
def readExtendedEdit? (nested : Nested) (quoted : Bool) : Reading (Option Edit) := do
  if (← get).dialect = .plain then return none
  match ← Reading.peek with
  | some ':' =>
    let _ ← Reading.next
    let start ← nested.word (.braces true [':'])
    let length ← do
      if ← Reading.accept ":" then pure (some (← nested.word (.braces true []))) else pure none
    let _ ← Reading.accept "\x7d"
    return some (.slice start length)
  | some '/' =>
    let _ ← Reading.next
    let place ← do
      match ← Reading.peek with
      | some c => if c = '/' || c = '#' || c = '%' then do let _ ← Reading.next; pure c else pure ' '
      | none => pure ' '
    let pattern ← nested.word (.braces false ['/'])
    let word ← do
      if ← Reading.accept "/" then nested.word (.braces quoted []) else pure []
    let _ ← Reading.accept "\x7d"
    return some (.replace place pattern word)
  | some '^' =>
    let all ← Reading.accept "^^"
    if !all then let _ ← Reading.accept "^"
    let _ ← readToBrace nested quoted
    return some (.recase true all)
  | some ',' =>
    let all ← Reading.accept ",,"
    if !all then let _ ← Reading.accept ","
    let _ ← readToBrace nested quoted
    return some (.recase false all)
  | _ => return none

/-- Reads how a parameter is changed, up to and with the closing brace; nothing if
    there is no such change. -/
def readEdit? (nested : Nested) (quoted : Bool) : Reading (Option Edit) := do
  let tests (orEmpty : Bool) (c : Char) : Reading (Option Edit) := do
    let word ← readToBrace nested quoted
    match c with
    | '-' => return some (.otherwise orEmpty word)
    | '=' => return some (.assign orEmpty word)
    | '?' => return some (.require orEmpty word)
    | '+' => return some (.instead orEmpty word)
    | _ => return some .none
  let cut (atEnd : Bool) (c : Char) : Reading (Option Edit) := do
    let longest ← Reading.accept (String.ofList [c])
    return some (.cut atEnd longest (← readToBrace nested false))
  match ← Reading.peekJoined with
  | some '}' =>
    let _ ← Reading.next
    return some .none
  | some '%' =>
    let _ ← Reading.next
    cut true '%'
  | some '#' =>
    let _ ← Reading.next
    cut false '#'
  | some ':' =>
    let second := (← get).rest[1]?
    let plain := (← get).dialect = .plain
    match second with
    | some c =>
      if "-+?=".toList.contains c || (plain && c = '}') then
        let _ ← Reading.next
        let _ ← Reading.next
        tests true c
      else readExtendedEdit? nested quoted
    | none => readExtendedEdit? nested quoted
  | some c =>
    if "-+?=".toList.contains c then
      let _ ← Reading.next
      tests false c
    else readExtendedEdit? nested quoted
  | none => return none

/-- Reads a piece in braces, after the opening brace. -/
def readBraces (nested : Nested) (quoted : Bool) : Reading Piece := do
  let before := (← get).rest
  let fault : Reading Piece := do
    let _ ← readToBrace nested quoted
    let after := (← get).rest
    return .fault quoted (before.take (before.length - after.length))
  let extended := (← get).dialect = .extended
  match ← Reading.peekJoined, (← get).rest[1]? with
  | some '#', some c =>
    -- a number of elements or of characters, unless the sign is the parameter itself
    let third := (← get).rest[2]?
    if c.isAlphanum || c = '_' || (isSpecial c && third = some '}') then
      let _ ← Reading.next
      let name ← readParameterName
      let index ← readIndex? nested
      if ← Reading.accept "\x7d" then return .parameter quoted name index .length else fault
    else
      let _ ← Reading.next
      match ← readEdit? nested quoted with
      | some edit => return .parameter quoted ['#'] .none edit
      | none => fault
  | some '!', some c =>
    if extended && (c.isAlphanum || c = '_') then
      let _ ← Reading.next
      let name ← readParameterName
      let index ← readIndex? nested
      let edit := if index matches .none then Edit.indirect else Edit.keys
      if ← Reading.accept "\x7d" then return .parameter quoted name index edit else fault
    else usual fault
  | _, _ => usual fault
where
  /-- Reads a name and a change. -/
  usual (fault : Reading Piece) : Reading Piece := do
    let name ← readParameterName
    if name.isEmpty then fault
    else
      let index ← readIndex? nested
      match ← readEdit? nested quoted with
      | some edit => return .parameter quoted name index edit
      | none => fault

/-- Reads commands up to a closing parenthesis. -/
def readParenthesized (nested : Nested) : Reading Command := do
  let command ← nested.commands
  if (← get).last.isSign ")" then
    modify fun s => { s with putBack := false }
    return command
  else Reading.unexpected (some (.sign ")"))

/-- Reads a piece, after a dollar sign; nothing if the sign stands for itself. -/
def readDollar (nested : Nested) (quoted : Bool) : Reading (Option Piece) := do
  match ← Reading.peekJoined with
  | some '(' =>
    let _ ← Reading.next
    if (← Reading.peekJoined) = some '(' then
      let _ ← Reading.next
      return some (.number quoted (← nested.word .sum))
    else return some (.output quoted (← readParenthesized nested))
  | some '{' =>
    let _ ← Reading.next
    return some (← readBraces nested quoted)
  | some c =>
    if startsName c then return some (.parameter quoted (← Reading.takeWhile inName) .none .none)
    else if c.isDigit || isSpecial c then
      let _ ← Reading.next
      return some (.parameter quoted [c] .none .none)
    else return none
  | none => return none

/-- Reads a piece in backquotes, after the opening one. -/
def readBackquotedPiece (nested : Nested) (place : Place) : Reading Piece := do
  let text ← readBackquoted (place = .double)
  return .output place.quotes (← Reading.within text 1 nested.commands)

/-- Reads a character after a backslash. -/
def readEscape (place : Place) (d : Draft) : Reading Draft := do
  match ← Reading.next with
  | none => return d.addChar place.quotes '\\'
  | some '\n' => return d
  | some c =>
    if !place.quotes then return { d.addChar true c with quoted := true }
    else
      let special := c = '\\' || c = '$' || c = '\x60' || (c = '"' && place ≠ .here) ||
        (c = '}' && place matches .braces _ _)
      if special then return d.addChar true c
      else return (d.addChar true '\\').addChar true c

/-- Reads on at a place: the word goes on, or it is finished. -/
def readStep (nested : Nested) (place : Place) (d : Draft) : Reading (Draft ⊕ Word) := do
  let add (c : Char) : Reading (Draft ⊕ Word) := do
    let _ ← Reading.next
    return .inl (d.addChar place.quotes c)
  match ← Reading.peek with
  | none =>
    match place with
    | .double => Reading.fail (.openQuote '"')
    | .braces _ _ => Reading.fail .openBrace
    | .sum => Reading.fail .openSum
    | _ => return .inr d.word
  | some c =>
    if c = '\\' then
      let _ ← Reading.next
      return .inl (← readEscape place d)
    else if c = '\'' && place.knowsQuotes then
      let _ ← Reading.next
      return .inl (d.addQuoted (← readQuoted))
    else if c = '"' && place = .double then
      let _ ← Reading.next
      return .inr d.word
    else if c = '"' && place.knowsDoubleQuotes then
      let _ ← Reading.next
      let inner ← nested.word .double
      let d := if inner.isEmpty then d.addQuoted [] else inner.foldl Draft.addPiece d
      return .inl { d with quoted := true }
    else if c = '$' && place ≠ .mark then
      let _ ← Reading.next
      if ← (if place.knowsQuotes then Reading.acceptExtended "'" else return false) then
        return .inl (d.addQuoted (← readEscaped))
      else
        match ← readDollar nested place.quotes with
        | some p => return .inl (d.addPiece p)
        | none => return .inl (d.addChar place.quotes '$')
    else if c = '\x60' && place ≠ .mark then
      let _ ← Reading.next
      return .inl (d.addPiece (← readBackquotedPiece nested place))
    else
      match place with
      | .plain | .mark =>
        let feeds ←
          if place ≠ .plain then pure false
          else if ← Reading.acceptExtended "<(" then pure true
          else Reading.acceptExtended ">("
        if feeds then return .inl (d.addPiece (.channel (c = '<') (← readParenthesized nested)))
        if endsWord c then return .inr d.word
        else add c
      | .expression =>
        if c = '(' then
          let _ ← Reading.next
          return .inl { d.addChar false c with depth := d.depth + 1 }
        else if c = ')' && d.depth ≠ 0 then
          let _ ← Reading.next
          return .inl { d.addChar false c with depth := d.depth - 1 }
        else if d.depth = 0 && (c = ' ' || c = '\t' || c = '\n' || c = ')') then return .inr d.word
        else add c
      | .braces _ stops =>
        if c = '}' || stops.contains c then return .inr d.word else add c
      | .sum =>
        if c = '(' then
          let _ ← Reading.next
          return .inl { d.addChar true c with depth := d.depth + 1 }
        else if c = ')' then
          if d.depth ≠ 0 then
            let _ ← Reading.next
            return .inl { d.addChar true c with depth := d.depth - 1 }
          else if ← Reading.accept "))" then return .inr d.word
          else add c
        else add c
      | _ => add c

/-- Reads a word at a place. -/
def readWord (nested : Nested) (place : Place) : Reading Word :=
  Reading.repeatedly (readStep nested place) {}

end Lifelines.Shell
