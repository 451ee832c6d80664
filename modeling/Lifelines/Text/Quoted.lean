/-!
# Quoted text

A label is written between double quotes, with a backslash before each double
quote that it contains. A backslash of the label itself is written as it is.
-/

namespace Lifelines.Text

/-- The characters of a label as they stand between the quotes. -/
def escapeChars : List Char → List Char
  | [] => []
  | '"' :: rest => '\\' :: '"' :: escapeChars rest
  | c :: rest => c :: escapeChars rest

/-- A text with a backslash put before each of its double quotes. -/
def escape (s : String) : String :=
  String.ofList (escapeChars s.toList)

/-- A text in its written form: escaped, between double quotes. -/
def quote (s : String) : String :=
  "\"" ++ escape s ++ "\""

end Lifelines.Text
