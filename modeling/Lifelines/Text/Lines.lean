/-!
# Lines of a text

A newline ends a line, and so does a carriage return with a newline right
after it; a carriage return anywhere else is an ordinary character. What stands
after the last newline is a line only if it is not empty, so the empty text has
no line and a newline at the very end opens none.
-/

namespace Lifelines.Text

/-- The lines of a sequence of characters, without the characters that end them. -/
def linesOf : List Char → List (List Char)
  | [] => []
  | '\r' :: '\n' :: rest => [] :: linesOf rest
  | '\n' :: rest => [] :: linesOf rest
  | c :: rest =>
    match linesOf rest with
    | [] => [[c]]
    | line :: lines => (c :: line) :: lines

/-- The lines of a text. -/
def lines (s : String) : List String :=
  (linesOf s.toList).map String.ofList

end Lifelines.Text
