import Lifelines.Pattern.RegexText
import Lifelines.Utility.Printf

/-!
# Separators

Records are separated in the input, and fields in a record: by blanks, by a character,
or by what an expression matches. Without any separator each character is a field,
and each paragraph is a record.

* `readPattern`: expressions as they are written;
* `Separator.split`: the fields of a text;
* `Separator.readRecord?`: the first record of a text, and what follows it.
-/

namespace Lifelines.Awk

open Pattern

/-- An expression in which characters that are given by numbers stand for themselves. -/
def withoutNumbers : (fuel : Nat) → Bytes → Bytes
  | 0, text => text
  | _, [] => []
  | _, ['\\'] => ['\\', '\\']
  | fuel + 1, '\\' :: c :: rest =>
    let (octal, afterOctal) := Printf.takeDigits 3 Printf.isOctal (c :: rest)
    let (hex, afterHex) := Printf.takeDigits 2 Printf.isHex rest
    let literal (d : Char) : Bytes := if d.isAlphanum then [d] else ['\\', d]
    if !octal.isEmpty then literal (Printf.byte (Printf.numberOf 8 octal)) ++ withoutNumbers fuel afterOctal
    else if c = 'x' && !hex.isEmpty then
      literal (Printf.byte (Printf.numberOf 16 hex)) ++ withoutNumbers fuel afterHex
    else '\\' :: c :: withoutNumbers fuel rest
  | fuel + 1, c :: rest => c :: withoutNumbers fuel rest

/-- The words about a text that is no expression. -/
def patternComplaint (source : Bytes) (e : RegexFault) : Bytes :=
  let reason : String :=
    match e with
    | .openGroup => "missing ')'"
    | .closedGroup => "missing '('"
    | .badBound | .openBound => "bad interval expression"
    | .nothingRepeated => "missing operand"
    | _ => "bad class -- [], [^] or ["
  "regular expression compile failed (".toList ++ reason.toList ++ ")\n".toList ++ source

/-- The expression that a text stands for, or the words about what is wrong with it. -/
def readPattern (source : Bytes) : Except Bytes Regex :=
  match RegexText.read? { extended := true, escapes := .named } (withoutNumbers source.length source) with
  | .ok r => .ok r
  | .error e => .error (patternComplaint source e)

/-- What separates fields or records. -/
inductive Separator where
  | blanks
  | char (c : Char)
  /-- Nothing: each character is a field, each paragraph a record. -/
  | none
  | pattern (r : Regex)

namespace Separator

/-- The separator of fields that a text stands for. -/
def ofText (text : Bytes) : Except Bytes Separator :=
  match text with
  | [] => .ok .none
  | [' '] => .ok .blanks
  | [c] => .ok (.char c)
  | text => (readPattern text).map .pattern

/-- The pieces between the places that an expression matches. -/
def cut (r : Regex) (text : Bytes) : List Bytes :=
  let subject := text.toArray
  let found := (r.all subject).filter fun m => m.start < m.stop
  go subject 0 found
where
  /-- The pieces from a place on. -/
  go (subject : Array Char) (start : Nat) : List Regex.Found → List Bytes
    | [] => [Regex.Found.part subject start subject.size]
    | m :: rest => Regex.Found.part subject start m.start :: go subject m.stop rest

/-- The fields of a text. -/
def split (s : Separator) (text : Bytes) : List Bytes :=
  if text.isEmpty then []
  else
    match s with
    | blanks => Bytes.words text
    | char c => Bytes.splitOn c text
    | none => text.map fun c => [c]
    | pattern r => cut r text

/-- The separator of the fields of paragraphs: newlines separate them, too. -/
def withNewlines (s : Separator) : Separator :=
  let newline : Regex := .set (.single '\n')
  match s with
  | char c => .pattern (.either (.set (.single c)) newline)
  | pattern r => .pattern (.either r newline)
  | s => s

/-- The first record of a text, and what follows it. -/
def readRecord? (s : Separator) (text : Bytes) : Option (Bytes × Bytes) :=
  match s with
  | none =>
    let text := text.dropWhile (· = '\n')
    if text.isEmpty then .none
    else
      let n := paragraphLength text
      let record := (text.take n).reverse.dropWhile (· = '\n')
      some (record.reverse, text.drop n)
  | char c =>
    if text.isEmpty then .none
    else
      let record := text.takeWhile (· ≠ c)
      some (record, text.drop (record.length + 1))
  | blanks =>
    if text.isEmpty then .none
    else
      let record := text.takeWhile (· ≠ ' ')
      some (record, text.drop (record.length + 1))
  | pattern r =>
    if text.isEmpty then .none
    else
      let subject := text.toArray
      match (r.all subject).find? fun m => m.start < m.stop with
      | some m => some (text.take m.start, text.drop m.stop)
      | .none => some (text, [])
where
  /-- How far a paragraph goes. -/
  paragraphLength : Bytes → Nat
    | '\n' :: '\n' :: _ => 2
    | _ :: rest => paragraphLength rest + 1
    | [] => 0

end Separator

end Lifelines.Awk
