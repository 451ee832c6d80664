import Lifelines.Json.Number

/-!
# JSON values

Values as they stand in a JSON text: the members of an object are kept in the
order of the text, repeated names included.

The reader is strict. It knows no comments, no trailing commas and no blanks
but space, tab, newline and carriage return; half of a surrogate pair is an
error; and so are arrays and objects nested too deeply.

* `Json.parse?`: the value of a text.
-/

namespace Lifelines

/-- JSON values. -/
inductive Json where
  | null
  | bool (b : Bool)
  | number (x : Float)
  | string (s : String)
  | array (items : List Json)
  | object (members : List (String × Json))
  deriving Inhabited, Repr

namespace Json

/-- Drops the blanks that a text starts with. -/
def skipBlanks : List Char → List Char
  | c :: cs => if c = ' ' ∨ c = '\t' ∨ c = '\n' ∨ c = '\r' then skipBlanks cs else c :: cs
  | [] => []

/-! ### Strings -/

/-- The character that a letter stands for after a backslash. -/
def escaped? : Char → Option Char
  | '"' => some '"'
  | '\\' => some '\\'
  | '/' => some '/'
  | 'b' => some '\x08'
  | 'f' => some '\x0c'
  | 'n' => some '\n'
  | 'r' => some '\r'
  | 't' => some '\t'
  | _ => none

/-- The value of a hexadecimal digit. -/
def hexDigit? (c : Char) : Option Nat :=
  if '0' ≤ c ∧ c ≤ '9' then some (c.toNat - '0'.toNat)
  else if 'a' ≤ c ∧ c ≤ 'f' then some (c.toNat - 'a'.toNat + 10)
  else if 'A' ≤ c ∧ c ≤ 'F' then some (c.toNat - 'A'.toNat + 10)
  else none

/-- The value of four hexadecimal digits. -/
def hexUnit? (a b c d : Char) : Option Nat := do
  return (((← hexDigit? a) * 16 + (← hexDigit? b)) * 16 + (← hexDigit? c)) * 16 + (← hexDigit? d)

/-- The character of a unit that is no half of a pair. -/
def ofUnit? (unit : Nat) : Option Char :=
  if 0xD800 ≤ unit ∧ unit < 0xE000 then none else some (Char.ofNat unit)

/-- The character of the two halves of a pair. -/
def ofPair? (high low : Nat) : Option Char :=
  if 0xD800 ≤ high ∧ high < 0xDC00 ∧ 0xDC00 ≤ low ∧ low < 0xE000 then
    some (Char.ofNat (0x10000 + (high - 0xD800) * 0x400 + (low - 0xDC00)))
  else none

/-- The characters up to the closing quote, and what follows it. -/
def readChars : List Char → Option (List Char × List Char)
  | [] => none
  | '"' :: rest => some ([], rest)
  | '\\' :: 'u' :: a :: b :: c :: d :: rest =>
    match hexUnit? a b c d with
    | none => none
    | some unit =>
      match ofUnit? unit with
      | some ch => (readChars rest).map fun (cs, rest) => (ch :: cs, rest)
      | none =>
        match rest with
        | '\\' :: 'u' :: a' :: b' :: c' :: d' :: rest' =>
          match (hexUnit? a' b' c' d').bind (ofPair? unit) with
          | some ch => (readChars rest').map fun (cs, rest) => (ch :: cs, rest)
          | none => none
        | _ => none
  | '\\' :: c :: rest =>
    match escaped? c with
    | some ch => (readChars rest).map fun (cs, rest) => (ch :: cs, rest)
    | none => none
  | c :: rest =>
    if c.toNat < 0x20 ∨ c = '\\' then none
    else (readChars rest).map fun (cs, rest) => (c :: cs, rest)

/-- The string whose opening quote has been read. -/
def readString (cs : List Char) : Option (String × List Char) :=
  (readChars cs).map fun (s, rest) => (String.ofList s, rest)

/-! ### Values -/

/-- How deeply arrays and objects may be nested. -/
def nestingLimit : Nat := 127

/-- What follows `word`, if the text starts with it. -/
def dropWord? (word : String) (cs : List Char) : Option (List Char) :=
  if word.toList.isPrefixOf cs then some (cs.drop word.length) else none

mutual

/-- The value at the start of a text, which may not start with a blank, and what
    follows it. At most `depth` arrays and objects are open at once. A character
    costs at most two units of `fuel`: one for the value it belongs to and one for
    the item or member that the value is. -/
def readValue (fuel depth : Nat) (cs : List Char) : Option (Json × List Char) :=
  match fuel, cs with
  | 0, _ => none
  | _, [] => none
  | fuel + 1, c :: rest =>
    match c with
    | 'n' => (dropWord? "ull" rest).map (null, ·)
    | 't' => (dropWord? "rue" rest).map (bool true, ·)
    | 'f' => (dropWord? "alse" rest).map (bool false, ·)
    | '"' => (readString rest).map fun (s, rest) => (string s, rest)
    | '[' =>
      match depth, skipBlanks rest with
      | 0, _ => none
      | _, ']' :: rest => some (array [], rest)
      | depth + 1, rest => (readItems fuel depth rest).map fun (items, rest) => (array items, rest)
    | '\x7b' =>
      match depth, skipBlanks rest with
      | 0, _ => none
      | _, '\x7d' :: rest => some (object [], rest)
      | depth + 1, rest => (readMembers fuel depth rest).map fun (ms, rest) => (object ms, rest)
    | _ =>
      match readNumeral (c :: rest) with
      | some (numeral, rest) => numeral.value?.map (number ·, rest)
      | none => none

/-- The items of an array up to its closing bracket, and what follows it. -/
def readItems (fuel depth : Nat) (cs : List Char) : Option (List Json × List Char) :=
  match fuel with
  | 0 => none
  | fuel + 1 =>
    match readValue fuel depth cs with
    | none => none
    | some (item, rest) =>
      match skipBlanks rest with
      | ']' :: rest => some ([item], rest)
      | ',' :: rest =>
        (readItems fuel depth (skipBlanks rest)).map fun (items, rest) => (item :: items, rest)
      | _ => none

/-- The members of an object up to its closing brace, and what follows it. -/
def readMembers (fuel depth : Nat) (cs : List Char) :
    Option (List (String × Json) × List Char) :=
  match fuel, cs with
  | fuel + 1, '"' :: rest =>
    match readString rest with
    | none => none
    | some (name, rest) =>
      match skipBlanks rest with
      | ':' :: rest =>
        match readValue fuel depth (skipBlanks rest) with
        | none => none
        | some (value, rest) =>
          match skipBlanks rest with
          | '\x7d' :: rest => some ([(name, value)], rest)
          | ',' :: rest =>
            (readMembers fuel depth (skipBlanks rest)).map fun (ms, rest) =>
              ((name, value) :: ms, rest)
          | _ => none
      | _ => none
  | _, _ => none

end

/-- The value of a text that holds one value and blanks around it. -/
def parse? (text : String) : Option Json :=
  let cs := text.toList
  match readValue (2 * cs.length + 1) nestingLimit (skipBlanks cs) with
  | some (value, rest) => if (skipBlanks rest).isEmpty then some value else none
  | none => none

end Json

end Lifelines
