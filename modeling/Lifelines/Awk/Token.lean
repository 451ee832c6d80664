import Lifelines.Awk.Syntax
import Lifelines.Utility.Printf

/-!
# The words of a program

A program is cut into tokens. A slash starts an expression for texts unless there
is something before it that can be divided.

* `Token`: the tokens;
* `Token.scan`: the tokens of the texts of a program, each with its place.
-/

namespace Lifelines.Awk

/-- A token. -/
inductive Token where
  | number (x : Float) (written : Bytes)
  | text (t : Bytes)
  | regex (source : Bytes)
  | word (w : Bytes)
  /-- A name with an opening parenthesis right behind it. -/
  | callable (w : Bytes)
  | sign (s : String)
  | newline
  | finish
  /-- A character that begins no token, with the words about it. -/
  | stray (complaint : Bytes)
  /-- Something that has no end, with the words about it. -/
  | runaway (complaint : Bytes)
  deriving Inhabited

/-- A place in a program: a line, perhaps of a file. -/
structure Spot where
  file : Option Bytes := none
  line : Nat
  deriving Inhabited

/-- What is wrong with a program. -/
abbrev Fault := Bytes

/-- A fault at a place. -/
def Spot.fault (s : Spot) (text : Bytes) : Fault :=
  ((s.file.map fun f => f ++ ": ".toList).getD []) ++ "line ".toList ++ Bytes.ofNat s.line ++ ": ".toList ++ text

namespace Token

/-- A token in the words of a complaint. -/
def spelled : Token → Bytes
  | number _ written => written
  | text t => t
  | regex source => '/' :: source ++ ['/']
  | word w | callable w => w
  | sign s => s.toList
  | newline => "end of line".toList
  | finish => "end of file".toList
  | stray complaint | runaway complaint => complaint

/-- The words that are no names. -/
def keywords : List String :=
  ["BEGIN", "END", "function", "func", "if", "else", "while", "for", "do", "break", "continue", "next",
    "nextfile", "exit", "return", "delete", "in", "getline", "print", "printf"]

/-- The functions that are always there, with how many arguments they take. -/
def builtins : List (String × Builtin × Nat × Nat) :=
  [("length", .length, 0, 1), ("substr", .substr, 2, 3), ("index", .index, 2, 2), ("split", .split, 2, 3),
    ("sub", .sub, 2, 3), ("gsub", .gsub, 2, 3), ("match", .matchPlace, 2, 2), ("sprintf", .sprintf, 1, 255),
    ("toupper", .toUpper, 1, 1), ("tolower", .toLower, 1, 1), ("sin", .sin, 1, 1), ("cos", .cos, 1, 1),
    ("atan2", .atan2, 2, 2), ("exp", .exp, 1, 1), ("log", .log, 1, 1), ("sqrt", .sqrt, 1, 1),
    ("int", .int, 1, 1), ("rand", .rand, 0, 0), ("srand", .srand, 0, 1), ("system", .system, 1, 1),
    ("close", .close, 1, 1), ("fflush", .flush, 0, 1), ("systime", .time, 0, 0)]

/-- Whether a word may be a name. -/
def isFree (w : Bytes) : Bool :=
  let w := String.ofList w
  !keywords.contains w && (builtins.lookup w).isNone

/-- Whether a token may be the end of an operand. -/
def endsOperand : Token → Bool
  | number _ _ | text _ => true
  | word w => isFree w || w = "getline".toList
  | sign s => s = ")" || s = "]"
  | _ => false

/-- The signs, the longer ones first. -/
def signs : List String :=
  ["&&", "||", "==", "!=", "<=", ">=", "!~", "++", "--", "+=", "-=", "*=", "/=", "%=", "^=", ">>",
    "+", "-", "*", "/", "%", "^", "!", ">", "<", "|", "?", ":", "~", "$", "=", "(", ")", "[", "]", "\x7b", "\x7d",
    ",", ";"]

/-- The number of a fault or of a number that is none of the finite ones. -/
def ofFormatNumber (negative : Bool) : FormatNumber → Float
  | .infinite => if negative then -(1.0 / 0.0) else 1.0 / 0.0
  | .notNumber => 0.0 / 0.0
  | .finite f =>
    let f := f.toBits 53
    let x := if f.den = 1 then Float.ofNat f.num else Float.scaleB (Float.ofNat f.num) (-(Nat.log2 f.den : Int))
    if negative then -x else x

/-- The character that a letter after a backslash in a text stands for. -/
def escapeOf? (c : Char) : Option Char :=
  if c = '"' then some '"' else Printf.simpleEscape? c

/-- Reads a text up to its closing quote: its characters, how many lines it crosses, and
    what follows it. -/
def readText : (fuel : Nat) → Bytes → Option (Bytes × Nat × Bytes)
  | 0, _ | _, [] => none
  | fuel + 1, c :: rest =>
    let add (text : Bytes) (rest : Bytes) : Option (Bytes × Nat × Bytes) :=
      (readText fuel rest).map fun (t, lines, after) => (text ++ t, lines, after)
    if c = '"' then some ([], 0, rest)
    else if c = '\n' then none
    else if c = '\\' then
      match rest with
      | '\n' :: rest => (readText fuel rest).map fun (t, lines, after) => (t, lines + 1, after)
      | d :: after =>
        let (octal, afterOctal) := Printf.takeDigits 3 Printf.isOctal rest
        if !octal.isEmpty then add [Printf.byte (Printf.numberOf 8 octal)] afterOctal
        else
          let (hex, afterHex) := Printf.takeDigits 2 Printf.isHex after
          if d = 'x' && !hex.isEmpty then add [Printf.byte (Printf.numberOf 16 hex)] afterHex
          else
            match escapeOf? d with
            | some e => add [e] after
            | none => add ['\\', d] after
      | [] => none
    else add [c] rest

/-- Reads an expression for texts up to the slash that ends it; a slash in brackets does
    not. -/
def readRegex : (fuel : Nat) → (inBrackets : Bool) → Bytes → Option (Bytes × Bytes)
  | 0, _, _ | _, _, [] => none
  | fuel + 1, inBrackets, c :: rest =>
    let add (text : Bytes) (inBrackets : Bool) (rest : Bytes) : Option (Bytes × Bytes) :=
      (readRegex fuel inBrackets rest).map fun (t, after) => (text ++ t, after)
    if c = '\n' then none
    else if c = '/' && !inBrackets then some ([], rest)
    else if c = '\\' then
      match rest with
      | '/' :: rest => add ['/'] inBrackets rest
      | d :: rest => add ['\\', d] inBrackets rest
      | [] => none
    else if c = '[' && !inBrackets then
      -- a closing bracket that comes first belongs to the set
      let (start, rest) : Bytes × Bytes :=
        match rest with
        | '^' :: ']' :: rest => (['^', ']'], rest)
        | ']' :: rest => ([']'], rest)
        | rest => ([], rest)
      add ('[' :: start) true rest
    else add [c] (inBrackets && c ≠ ']') rest

/-- The words about something that has no end, with the start of what comes after its first
    character. -/
def runawayComplaint (what : String) (first : Char) (rest : Bytes) : Bytes :=
  "runaway ".toList ++ what.toList ++ [' ', first] ++ (rest.takeWhile (· ≠ '\n')).take 10 ++ " ...".toList

/-- The words about a character that begins no token. -/
def strayComplaint (line : Nat) (c : Char) : Bytes :=
  let shown : Bytes :=
    if c.toNat < 32 || 126 < c.toNat then "0x".toList ++ Bytes.padLeft 2 '0' (Nat.toDigits 16 c.toNat)
    else ['\'', c, '\'']
  Bytes.ofNat line ++ ": unexpected character ".toList ++ shown

/-- Whether a character may start a name. -/
def startsName (c : Char) : Bool :=
  c.isAlpha || c = '_'

/-- Whether a character may stand in a name. -/
def inName (c : Char) : Bool :=
  c.isAlphanum || c = '_'

/-- Reads the tokens of a text; `last` is the one before it. After something without an
    end there are no more. -/
def scanFrom (file : Option Bytes) : (fuel : Nat) → (line : Nat) → (last : Token) → Bytes → List (Token × Spot)
  | 0, _, _, _ | _, _, _, [] => []
  | fuel + 1, line, last, c :: rest =>
    let add (t : Token) (line : Nat) (rest : Bytes) : List (Token × Spot) :=
      (t, ⟨file, line⟩) :: scanFrom file fuel line t rest
    if c = ' ' || c = '\t' || c = '\r' then scanFrom file fuel line last rest
    else if c = '#' then scanFrom file fuel line last (rest.dropWhile (· ≠ '\n'))
    else if c = '\n' then (newline, ⟨file, line⟩) :: scanFrom file fuel (line + 1) newline rest
    else if c = '"' then
      match readText (rest.length + 1) rest with
      | some (t, lines, after) => add (text t) (line + lines) after
      | none => [(runaway (runawayComplaint "string constant" c rest), ⟨file, line⟩)]
    else if c.isDigit || (c = '.' && (rest.head?.map Char.isDigit).getD false) then
      let body := c :: rest
      match Printf.readDecimal.decimal false body with
      | some (_, x, after) =>
        add (number (ofFormatNumber false x) (body.take (body.length - after.length))) line after
      | none => add (stray (strayComplaint line c)) line rest
    else if startsName c then
      let w := (c :: rest).takeWhile inName
      let after := (c :: rest).drop w.length
      add (if after.head? = some '(' then callable w else word w) line after
    else if c = '/' && !last.endsOperand then
      match readRegex (rest.length + 1) false rest with
      | some (source, after) => add (regex source) line after
      | none => [(runaway (runawayComplaint "regular expression" c rest), ⟨file, line⟩)]
    else
      match c, rest with
      | '\\', '\n' :: after => scanFrom file fuel (line + 1) last after
      | c, rest =>
        match signs.find? fun s => s.toList.isPrefixOf (c :: rest) with
        | some s => add (sign s) line ((c :: rest).drop s.length)
        | none => add (stray (strayComplaint line c)) line rest

/-- How many lines a text has, where the last one may be empty. -/
def lineCount (text : Bytes) : Nat :=
  text.count '\n' + 1

/-- The tokens of a program, the texts of which may be in files. A newline is added to each
    text. -/
def scan (texts : List (Option Bytes × Bytes)) : List (Token × Spot) :=
  let ended := texts.map fun (file, t) => (file, t ++ ['\n'])
  let last : Spot :=
    match ended.getLast? with
    | some (file, t) => ⟨file, lineCount t⟩
    | none => ⟨none, 1⟩
  (ended.flatMap fun (file, t) => scanFrom file (t.length + 1) 1 newline t) ++ [(finish, last)]

end Token

end Lifelines.Awk
