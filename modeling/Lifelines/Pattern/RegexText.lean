import Lifelines.Pattern.Regex

/-!
# Regular expressions as texts

There are two ways to write an expression. In the basic one, groups, bounds and
choices are written with a backslash; in the extended one without, and there a
backslash takes away their meaning.

* `RegexText.read?`: the expression that a text stands for.
-/

namespace Lifelines.Pattern

/-- How expressions are written. -/
structure RegexStyle where
  /-- Whether groups, bounds and choices are written without a backslash. -/
  extended : Bool := false
  /-- How a backslash before a letter is read. -/
  escapes : CharSet.Escapes := .plain
  /-- Whether signs in places where they mean nothing are allowed. -/
  lenient : Bool := false
  /-- Whether starts and ends of lines inside of the subject count. -/
  multiline : Bool := false
  deriving DecidableEq

/-- Why a text is no expression. -/
inductive RegexFault where
  | openGroup
  | closedGroup
  | openSet
  | emptySet
  | badClass
  | badSymbol
  | badRange
  | openBound
  | badBound
  | tooBig
  | nothingRepeated
  | endsInBackslash
  | noSuchGroup
  deriving DecidableEq

/-- What is wrong with a text that is no expression. -/
def RegexFault.message : RegexFault → String
  | openGroup => "Unmatched ( or \\("
  | closedGroup => "Unmatched ) or \\)"
  | openSet => "Unmatched [, [^, [:, [., or [="
  | emptySet => "Invalid regular expression"
  | badClass => "Invalid character class name"
  | badSymbol => "Invalid collation character"
  | badRange => "Invalid range end"
  | openBound => "Unmatched \\\x7b"
  | badBound => "Invalid content of \\\x7b\\\x7d"
  | tooBig => "Regular expression too big"
  | nothingRepeated => "Invalid preceding regular expression"
  | endsInBackslash => "Trailing backslash"
  | noSuchGroup => "Invalid back reference"

namespace RegexText

/-- Signs with a meaning of their own. -/
inductive Sign where
  | groupOpen
  | groupClose
  | choice
  | star
  | plus
  | question
  | boundOpen
  | other
  deriving DecidableEq

/-- The sign at the start of a text, and what follows it. -/
def sign (extended : Bool) (text : Bytes) : Sign × Bytes :=
  match extended, text with
  | _, '*' :: rest => (.star, rest)
  | true, '(' :: rest => (.groupOpen, rest)
  | true, ')' :: rest => (.groupClose, rest)
  | true, '|' :: rest => (.choice, rest)
  | true, '+' :: rest => (.plus, rest)
  | true, '?' :: rest => (.question, rest)
  | true, '{' :: rest => (.boundOpen, rest)
  | false, '\\' :: '(' :: rest => (.groupOpen, rest)
  | false, '\\' :: ')' :: rest => (.groupClose, rest)
  | false, '\\' :: '|' :: rest => (.choice, rest)
  | false, '\\' :: '+' :: rest => (.plus, rest)
  | false, '\\' :: '?' :: rest => (.question, rest)
  | false, '\\' :: '{' :: rest => (.boundOpen, rest)
  | _, text => (.other, text)

/-- The greatest number in a bound. -/
def boundLimit : Nat := 32767

/-- Reads the numbers of a bound and what closes it. -/
def readBound (extended : Bool) (text : Bytes) : Except RegexFault (Nat × Option Nat × Bytes) :=
  let digits (cs : Bytes) : Bytes × Bytes := (cs.takeWhile Char.isDigit, cs.dropWhile Char.isDigit)
  let (low, rest) := digits text
  let least := (Bytes.toNat? low).getD 0
  let close : Bytes := if extended then ['}'] else ['\\', '}']
  let finish (most : Option Nat) (rest : Bytes) : Except RegexFault (Nat × Option Nat × Bytes) :=
    match Bytes.dropStart? close rest with
    | none => .error (if rest.isEmpty then .openBound else .badBound)
    | some after =>
      if most.any fun m => m < least then .error .badBound
      else if boundLimit < most.getD least then .error .tooBig
      else .ok (least, most, after)
  match low, rest with
  | _, ',' :: rest =>
    let (high, rest) := digits rest
    finish (Bytes.toNat? high) rest
  | [], rest => .error (if rest.isEmpty then .openBound else .badBound)
  | _, rest => finish (some least) rest

/-- Reads what tells how often an expression is repeated. -/
def readRepeats (style : RegexStyle) (fuel : Nat) (r : Regex) (text : Bytes) :
    Except RegexFault (Regex × Bytes) :=
  match fuel with
  | 0 => .ok (r, text)
  | fuel + 1 =>
    match sign style.extended text with
    | (.star, rest) => readRepeats style fuel (.repeated r 0 none) rest
    | (.plus, rest) => readRepeats style fuel (.repeated r 1 none) rest
    | (.question, rest) => readRepeats style fuel (.repeated r 0 (some 1)) rest
    | (.boundOpen, rest) =>
      match readBound style.extended rest with
      | .ok (least, most, after) => readRepeats style fuel (.repeated r least most) after
      | .error e =>
        -- what is no bound stands for itself
        if style.extended && style.lenient && e ≠ .tooBig && !isReversed rest then .ok (r, text)
        else .error e
    | _ => .ok (r, text)
where
  /-- Whether a bound is complete, its numbers being the wrong way round. -/
  isReversed (rest : Bytes) : Bool :=
    let inner := rest.takeWhile (· ≠ '}')
    inner.length < rest.length && !inner.isEmpty && inner.all fun c => c.isDigit || c = ','

/-- What a backslash and a character stand for, other than a sign. -/
def escaped (style : RegexStyle) (groups : Nat) (c : Char) : Except RegexFault Regex :=
  if style.escapes = .named then .ok (.set (.single (CharSet.namedEscape c)))
  else
    match c with
    | 'w' => .ok (.set ⟨false, CharSet.wordRanges⟩)
    | 'W' => .ok (.set ⟨true, CharSet.wordRanges⟩)
    | 's' => .ok (.set ⟨false, CharSet.spaceRanges⟩)
    | 'S' => .ok (.set ⟨true, CharSet.spaceRanges⟩)
    | 'b' => .ok (.wordEdge false)
    | 'B' => .ok (.wordEdge true)
    | '<' => .ok .wordStart
    | '>' => .ok .wordEnd
    | '\x60' => .ok .atStart
    | '\'' => .ok .atEnd
    | c =>
      if '1' ≤ c && c ≤ '9' then
        let n := c.toNat - '0'.toNat
        if n ≤ groups then .ok (.again n) else .error .noSuchGroup
      else .ok (.set (.single c))

/-- Whether an expression ends where a text goes on. -/
def endsHere (extended : Bool) (text : Bytes) : Bool :=
  text.isEmpty || (let s := (sign extended text).1; s = .groupClose || s = .choice)

/-- Why a text after an opening bracket is no set. -/
def setFault (text : Bytes) : RegexFault :=
  let rest := if text.head? = some '^' then text.drop 1 else text
  if rest.isEmpty then .emptySet
  else if closes "[:" ":]" text.length text then .badClass
  else if closes "[." ".]" text.length text || closes "[=" "=]" text.length text then .badSymbol
  else .openSet
where
  /-- Whether a mark occurs and is closed. -/
  closes (start stop : String) : Nat → Bytes → Bool
    | 0, _ | _, [] => false
    | fuel + 1, c :: rest =>
      match Bytes.dropStart? start.toList (c :: rest) with
      | some after => Bytes.occursIn stop.toList after
      | none => closes start stop fuel rest

/-- Reads an expression that is repeated as a whole and no group. -/
def readSingle (style : RegexStyle) (groups : Nat) (first : Bool) (text : Bytes) :
    Except RegexFault (Regex × Bytes) :=
  match text with
  | [] => .ok (.empty, [])
  | '.' :: rest => .ok (.any, rest)
  | '[' :: rest =>
    match CharSet.read? style.escapes ['^'] rest with
    | some (s, after) =>
      if s.ranges.any fun r => r.2 < r.1 then .error .badRange else .ok (.set s, after)
    | none => .error (setFault rest)
  | ['\\'] => .error .endsInBackslash
  | '\\' :: c :: rest => (escaped style groups c).map fun r => (r, rest)
  | '^' :: rest =>
    .ok (if !style.extended && !first then .set (.single '^')
      else if style.multiline then .lineStart else .atStart, rest)
  | '$' :: rest =>
    .ok (if !style.extended && !endsHere false rest then .set (.single '$')
      else if style.multiline then .lineEnd else .atEnd, rest)
  | c :: rest => .ok (.set (.single c), rest)

/-- Reads choices between sequences, up to the end or to what closes a group. Gives
    the number of groups read so far, too. At a place that comes `first` there is nothing
    before that could be repeated. -/
def readChoices (style : RegexStyle) (inGroup : Bool) : (fuel : Nat) → (groups : Nat) →
    (done current : Regex) → (chosen first : Bool) → (text : Bytes) →
    Except RegexFault (Regex × Nat × Bytes)
  | 0, groups, _, current, _, _, text => .ok (current, groups, text)
  | fuel + 1, groups, done, current, chosen, first, text =>
    let result := if chosen then .either done current else current
    let add (r : Regex) : Regex := if current = .empty then r else .both current r
    let literal (c : Char) (rest : Bytes) : Except RegexFault (Regex × Nat × Bytes) := do
      let (r, rest) ← readRepeats style rest.length (.set (.single c)) rest
      readChoices style inGroup fuel groups done (add r) chosen false rest
    match text, sign style.extended text with
    | [], _ => if inGroup then .error .openGroup else .ok (result, groups, [])
    | _, (.groupClose, rest) =>
      if inGroup then .ok (result, groups, rest)
      else if style.extended && style.lenient then literal ')' rest
      else .error .closedGroup
    | _, (.choice, rest) => readChoices style inGroup fuel groups result .empty true true rest
    | _, (.groupOpen, rest) => do
      let n := groups + 1
      let (body, groups, rest) ← readChoices style true fuel n .empty .empty false true rest
      let (r, rest) ← readRepeats style rest.length (.group n body) rest
      readChoices style inGroup fuel groups done (add r) chosen false rest
    | c :: more, (.star, _) =>
      -- with nothing to repeat, a star stands for itself or is an error
      if !style.extended then literal c more
      else if style.lenient || !first then readChoices style inGroup fuel groups done current chosen first more
      else .error .nothingRepeated
    | c :: more, (.boundOpen, _) =>
      if style.extended && (style.lenient || !first) then literal c more
      else .error .nothingRepeated
    | text, (s, rest) => do
      if s = .plus || s = .question then
        if !style.extended then literal (if s = .plus then '+' else '?') rest
        else if style.lenient || !first then readChoices style inGroup fuel groups done current chosen first rest
        else .error .nothingRepeated
      else
        let (r, after) ← readSingle style groups first text
        if r.isPlace then readChoices style inGroup fuel groups done (add r) chosen true after
        else
          let (r, after) ← readRepeats style after.length r after
          readChoices style inGroup fuel groups done (add r) chosen false after

/-- The expression that a text stands for. -/
def read? (style : RegexStyle) (text : Bytes) : Except RegexFault Regex :=
  (readChoices style false (2 * text.length + 2) 0 .empty .empty false true text).map (·.1)

end RegexText

end Lifelines.Pattern
