import Lifelines.Text.Bytes

/-!
# Words in quotes

A word that is shown for a shell to read back is put in quotes where the shell would
find a meaning in it. There are several ways to do so.

* `WordQuotes.dollar`: in dollar quotes, where every byte has an escape;
* `WordQuotes.single`, `WordQuotes.escaped`: in single quotes, or with backslashes, if
  there is need;
* `WordQuotes.double`: in double quotes;
* `WordQuotes.mixed`: in single quotes, with dollar quotes for some bytes between.
-/

namespace Lifelines.WordQuotes

/-- Whether a byte is not a printable character. -/
def isUnprintable (c : Char) : Bool :=
  c < ' ' || '~' < c

/-- A byte in dollar quotes; `escape` is the letter for the escape byte, if it has one. -/
def dollarEscape (escape : Option Char) (c : Char) : Bytes :=
  let letters : List (Char × Char) :=
    [('\x07', 'a'), ('\x08', 'b'), ('\t', 't'), ('\n', 'n'), ('\x0b', 'v'), ('\x0c', 'f'), ('\r', 'r')] ++
      (escape.map fun e => ('\x1b', e)).toList
  match letters.lookup c with
  | some letter => ['\\', letter]
  | none =>
    if c = '\\' || c = '\'' then ['\\', c]
    else if isUnprintable c then '\\' :: Bytes.padLeft 3 '0' (Nat.toDigits 8 c.toNat)
    else [c]

/-- A word in dollar quotes. -/
def dollar (word : Bytes) : Bytes :=
  ['$', '\''] ++ word.flatMap (dollarEscape (some 'E')) ++ ['\'']

/-- Whether the shell finds a meaning in a character, wherever it stands. -/
def isSpecial (c : Char) : Bool :=
  c = '\x60' || c = '\x7b' || c = '\x7d' || " \t\n'\"\\|&;()<>!*[]?^$".toList.contains c

/-- Whether the shell finds a meaning in a word. -/
def isSpecialWord (word : Bytes) : Bool :=
  word.any isSpecial || word.head? = some '#' || word.head? = some '~'

/-- A word between single quotes, those in it standing between others. -/
def always (word : Bytes) : Bytes :=
  '\'' :: (word.flatMap fun c => if c = '\'' then ['\'', '\\', '\'', '\''] else [c]) ++ ['\'']

/-- A word in single quotes, if there is need. -/
def single (word : Bytes) : Bytes :=
  if word.any isUnprintable then dollar word
  else if isSpecialWord word then always word
  else word

/-- A word with a backslash before each character that needs it. -/
def escaped (word : Bytes) : Bytes :=
  if word.isEmpty then ['\'', '\'']
  else if word.any isUnprintable then dollar word
  else
    let body := word.flatMap fun c => if isSpecial c || c = ',' then ['\\', c] else [c]
    if word.head? = some '#' || word.head? = some '~' then '\\' :: body else body

/-- A word in double quotes. -/
def double (word : Bytes) : Bytes :=
  if word.any isUnprintable then dollar word
  else
    '"' :: (word.flatMap fun c => if c = '\x60' || "\"$\\".toList.contains c then ['\\', c] else [c]) ++ ['"']

/-- Whether a character may stand in a word without quotes when a program quotes it. -/
def isPlain (c : Char) : Bool :=
  c.isAlphanum || "%+,-./:@]_".toList.contains c

/-- A word in the quotes of programs: in double quotes, if there are only harmless
    characters besides single quotes; else in single quotes, and what is not printable in
    dollar quotes between them. -/
def mixed (word : Bytes) : Bytes :=
  let isHarmless (c : Char) : Bool := isPlain c || " #~".toList.contains c
  let isBare (c : Char) : Bool := isPlain c || c = '\x7b' || c = '\x7d' || c = '#' || c = '~'
  if word.isEmpty then ['\'', '\'']
  else if word.all isBare && word.head? ≠ some '#' && word.head? ≠ some '~' &&
      !(word = ['\x7b'] || word = ['\x7d']) then word
  else if word.contains '\'' && word.all (fun c => isHarmless c || c = '\'') then '"' :: word ++ ['"']
  else '\'' :: go false word
where
  /-- Reads on, in dollar quotes or not. -/
  go : (inDollar : Bool) → Bytes → Bytes
    | _, [] => ['\'']
    | inDollar, c :: rest =>
      if isUnprintable c then
        (if inDollar then [] else "'$'".toList) ++ dollarEscape none c ++ go true rest
      else if c = '\'' then (if inDollar then ['\\', '\''] ++ go true rest else "'\\''".toList ++ go false rest)
      else (if inDollar then ['\'', '\''] else []) ++ c :: go false rest

end Lifelines.WordQuotes
