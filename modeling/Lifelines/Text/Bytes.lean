import Lifelines.Text.Utf8

/-!
# Texts as bytes

Programs exchange bytes, which need not be UTF-8. A text of bytes is written as
a list of characters, each standing for the byte with its number.

* `Bytes.ofString`, `Bytes.toText`: from texts and back; back, bytes that are no
  UTF-8 become replacement characters.
-/

namespace Lifelines

/-- A text as bytes, each written as the character with its number. -/
abbrev Bytes := List Char

namespace Bytes

/-- The bytes of an array. -/
def ofByteArray (bytes : ByteArray) : Bytes :=
  bytes.toList.map fun b => Char.ofNat b.toNat

/-- The array of some bytes. -/
def toByteArray (bytes : Bytes) : ByteArray :=
  ByteArray.mk (bytes.map fun c => UInt8.ofNat c.toNat).toArray

/-- The bytes of a text. -/
def ofString (s : String) : Bytes :=
  ofByteArray s.toUTF8

/-- The text that bytes stand for. -/
def toText (bytes : Bytes) : String :=
  Text.decodeLossy (toByteArray bytes)

/-- The decimal digits of a number. -/
def ofNat (n : Nat) : Bytes :=
  (toString n).toList

/-- The decimal digits of a number, with a dash if it is negative. -/
def ofInt (n : Int) : Bytes :=
  (toString n).toList

/-- Texts with a separator between them. -/
def join (separator : Bytes) : List Bytes → Bytes
  | [] => []
  | [text] => text
  | text :: rest => text ++ separator ++ join separator rest

/-- The pieces between the separators in a text; a text without a separator is one
    piece. -/
def splitOn (separator : Char) : Bytes → List Bytes
  | [] => [[]]
  | c :: rest =>
    if c = separator then [] :: splitOn separator rest
    else
      match splitOn separator rest with
      | [] => [[c]]
      | piece :: pieces => (c :: piece) :: pieces

/-- The lines of a text, each without the newline that ends it. -/
def lines (text : Bytes) : List Bytes :=
  let pieces := splitOn '\n' text
  if pieces.getLast? == some [] then pieces.dropLast else pieces

/-- The lines of a text, each with the newline that ends it; the last one may lack
    it. -/
def fullLines (text : Bytes) : List Bytes :=
  let pieces := splitOn '\n' text
  match pieces.getLast? with
  | some last =>
    (pieces.dropLast.map fun line => line ++ ['\n']) ++ (if last.isEmpty then [] else [last])
  | none => []

/-- A line without the newline that ends it. -/
def withoutNewline (line : Bytes) : Bytes :=
  if line.getLast? = some '\n' then line.dropLast else line

/-- Lines with a newline after each. -/
def ofLines (lines : List Bytes) : Bytes :=
  lines.flatMap fun line => line ++ ['\n']

/-- Takes a text off the start of another, if it is there. -/
def dropStart? : (start text : Bytes) → Option Bytes
  | [], text => some text
  | _ :: _, [] => none
  | c :: start, d :: text => if c = d then dropStart? start text else none

/-- Whether a text occurs in another. -/
def occursIn (part : Bytes) : Bytes → Bool
  | [] => part.isEmpty
  | c :: rest => part.isPrefixOf (c :: rest) || occursIn part rest

/-- Whether a text comes before another, byte by byte. -/
def before : Bytes → Bytes → Bool
  | [], [] => false
  | [], _ :: _ => true
  | _ :: _, [] => false
  | c :: a, d :: b => if c = d then before a b else c < d

/-- Fills a text up to a width on the left. -/
def padLeft (width : Nat) (fill : Char) (text : Bytes) : Bytes :=
  List.replicate (width - text.length) fill ++ text

/-- Fills a text up to a width on the right. -/
def padRight (width : Nat) (text : Bytes) : Bytes :=
  text ++ List.replicate (width - text.length) ' '

/-- Whether a byte is white space. -/
def isSpace (c : Char) : Bool :=
  c = ' ' || ('\t' ≤ c && c ≤ '\r')

/-- Drops white space from the start. -/
def trimStart (text : Bytes) : Bytes :=
  text.dropWhile isSpace

/-- Drops white space from both ends. -/
def trim (text : Bytes) : Bytes :=
  ((trimStart text).reverse.dropWhile isSpace).reverse

/-- The words of a text, which blanks and tabs and newlines separate. -/
def words (text : Bytes) : List Bytes :=
  let pieces := splitOn ' ' (text.map fun c => if c = '\t' || c = '\n' then ' ' else c)
  pieces.filter fun piece => !piece.isEmpty

/-- The number that decimal digits stand for; there has to be a digit. -/
def toNat? (text : Bytes) : Option Nat :=
  if text.isEmpty || !text.all Char.isDigit then none
  else some (text.foldl (fun n c => n * 10 + (c.toNat - '0'.toNat)) 0)

/-- The number that decimal digits stand for, perhaps after a sign. -/
def toInt? : Bytes → Option Int
  | '-' :: digits => (toNat? digits).map fun n => -(n : Int)
  | '+' :: digits => (toNat? digits).map fun n => (n : Int)
  | digits => (toNat? digits).map fun n => (n : Int)

/-- A text in lower case. -/
def toLower (text : Bytes) : Bytes :=
  text.map Char.toLower

/-- A text in upper case. -/
def toUpper (text : Bytes) : Bytes :=
  text.map Char.toUpper

end Bytes

end Lifelines
