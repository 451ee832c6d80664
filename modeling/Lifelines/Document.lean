import Lifelines.Param
import Lifelines.Statement

/-!
# Documents

A document is a finished diagram: its parameters and its statements. It is
written as a pic program that copies in the library of drawing macros, assigns
the parameters, and then holds one statement after the other.
-/

namespace Lifelines

/-- A finished diagram. -/
structure Document where
  /-- The layout parameters. -/
  params : ParamSet
  /-- The statements, in drawing order. -/
  statements : List Statement
  deriving BEq, Repr

namespace Document

/-- The lines of the pic program that takes its macros from `library`. -/
def picLines (doc : Document) (library : String) : List String :=
  ".PS" :: ("copy \"" ++ library ++ "\";") ::
    (doc.params.assignments ++ doc.statements.map Statement.text ++ [".PE"])

/-- The text of the pic program that takes its macros from `library`. -/
def toPic (doc : Document) (library : String) : String :=
  "\n".intercalate (doc.picLines library) ++ "\n"

end Document

end Lifelines
