/-!
# Blank characters

A character is *blank* when it has the Unicode property White_Space. Blanks
separate the words of a settings file and are trimmed from the ends of its
lines and of what a failing tool has printed.

* `Text.isBlank`: the property, as a table of ranges;
* `Text.trim`: a text without the blanks at its two ends;
* `Text.words`: the maximal runs of characters that are not blank.
-/

namespace Lifelines.Text

/-- The ranges of code points, ends included, of the property White_Space. -/
def blankRanges : List (Nat × Nat) :=
  [(0x09, 0x0D), (0x20, 0x20), (0x85, 0x85), (0xA0, 0xA0), (0x1680, 0x1680), (0x2000, 0x200A),
    (0x2028, 0x2029), (0x202F, 0x202F), (0x205F, 0x205F), (0x3000, 0x3000)]

/-- Whether a character has the property White_Space. -/
def isBlank (c : Char) : Bool :=
  blankRanges.any fun r => r.1 ≤ c.toNat && c.toNat ≤ r.2

/-- The characters from the first one that is not blank to the last such one. -/
def trimChars (cs : List Char) : List Char :=
  ((cs.dropWhile isBlank).reverse.dropWhile isBlank).reverse

/-- A text without the blanks at its two ends. -/
def trim (s : String) : String :=
  String.ofList (trimChars s.toList)

/-- The maximal runs of characters that are not blank, in order. -/
def wordsOf : List Char → List (List Char)
  | [] => []
  | c :: rest =>
    if isBlank c then wordsOf rest
    else
      match rest with
      | [] => [[c]]
      | d :: _ =>
        if isBlank d then [c] :: wordsOf rest
        else
          match wordsOf rest with
          | [] => [[c]]
          | w :: ws => (c :: w) :: ws

/-- The words of a text: what stands between its blanks. -/
def words (s : String) : List String :=
  (wordsOf s.toList).map String.ofList

end Lifelines.Text
