import Lifelines.Format
import Lifelines.Json.Value
import Lifelines.Param

/-!
# Values of the domain in JSON

How parameter values and output formats are read from JSON, and how parameter
values are written.
-/

namespace Lifelines

namespace ParamValue

/-- The value that a JSON value stands for: a number or a flag. -/
def ofJson? : Json → Option ParamValue
  | .number x => some (.number x)
  | .bool b => some (.flag b)
  | _ => none

/-- The value that a JSON text stands for. -/
def ofJsonText? (text : String) : Option ParamValue :=
  (Json.parse? text).bind ofJson?

/-- A value as it is written in JSON. -/
def jsonText : ParamValue → String
  | .number x => Json.numberText x
  | .flag b => if b then "true" else "false"

end ParamValue

namespace OutputFormat

/-- The format that a JSON value stands for: its name, or an object that has it as
    its only member and says no more about it. -/
def ofJson? : Json → Option OutputFormat
  | .string name => ofName? name
  | .object [(name, .null)] => ofName? name
  | _ => none

end OutputFormat

end Lifelines
