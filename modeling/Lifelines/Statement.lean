import Lifelines.Text.Lines
import Lifelines.Text.Quoted

/-!
# Statements

A diagram is written as a sequence of macro calls in the pic language. One call
is a `Statement`: the name of a macro and its arguments, written
`name(arg,arg,...);`.

* `Arg.text`, `Statement.text`: the written form;
* `Statement.references`: whether a statement names an element;
* one function for each macro that a diagram uses (`Statement.message`, ...).
-/

namespace Lifelines

/-- An argument of a macro call. -/
inductive Arg where
  /-- The bare name of an element, such as `O_3`. -/
  | ident (name : String)
  /-- A label, written as quoted text. -/
  | quoted (label : String)
  /-- A fragment of pic, written as it is. -/
  | raw (fragment : String)
  /-- A leading fragment and then lines, each written as its own quoted text. -/
  | lines (lead : Option String) (lines : List String)
  deriving DecidableEq, Repr

namespace Arg

/-- The segments of an argument of lines: the leading fragment, unless it is
    missing or empty, and the quoted lines. -/
def segments (lead : Option String) (lines : List String) : List String :=
  let quoted := lines.map Text.quote
  match lead with
  | some fragment => if fragment.isEmpty then quoted else fragment :: quoted
  | none => quoted

/-- The written form of an argument. -/
def text : Arg → String
  | ident name => name
  | raw fragment => fragment
  | quoted label => Text.quote label
  | lines lead ls => " ".intercalate (segments lead ls)

/-- The argument that carries a text line by line; the empty text counts as one
    empty line. -/
def ofText (lead : Option String) (text : String) : Arg :=
  match Text.lines text with
  | [] => lines lead [""]
  | ls => lines lead ls

end Arg

/-- A call of a macro. -/
structure Statement where
  /-- The macro that is called. -/
  name : String
  /-- What it is called with. -/
  args : List Arg := []
  deriving DecidableEq, Repr

namespace Statement

/-- The written form of a statement. -/
def text (s : Statement) : String :=
  s.name ++ "(" ++ ",".intercalate (s.args.map Arg.text) ++ ");"

/-- Whether some argument is the bare name `element`. -/
def references (s : Statement) (element : String) : Bool :=
  s.args.contains (.ident element)

/-- Declares an object box with a label. -/
def object (name label : String) : Statement :=
  ⟨"object", [.ident name, .quoted label]⟩

/-- Declares an actor, a stick figure, with a label. -/
def actor (name label : String) : Statement :=
  ⟨"actor", [.ident name, .quoted label]⟩

/-- Reserves the column of an object that a message creates later. -/
def placeholder (name : String) : Statement :=
  ⟨"pobject", [.ident name]⟩

/-- Advances time by one step. -/
def step : Statement :=
  ⟨"step", []⟩

/-- Opens a frame at the column of `left`. -/
def beginFrame (left frame label : String) : Statement :=
  ⟨"begin_frame", [.ident left, .ident frame, .quoted label]⟩

/-- Closes a frame at the column of `right`. -/
def endFrame (right frame : String) : Statement :=
  ⟨"end_frame", [.ident right, .ident frame]⟩

/-- Puts a box with some lines of text beside a lifeline. -/
def comment (object name movement : String) (size : Option String) (text : String) : Statement :=
  ⟨"comment", [.ident object, .ident name, .raw movement, .ofText size text]⟩

/-- Draws a line from a lifeline to a comment. -/
def connectToComment (object name : String) : Statement :=
  ⟨"connect_to_comment", [.ident object, .ident name]⟩

/-- Puts a constraint under the object declared last. -/
def objectConstraint (label : String) : Statement :=
  ⟨"oconstraint", [.quoted label]⟩

/-- Puts a constraint beside a lifeline, or just below that point. -/
def lineConstraint (object label : String) (below : Bool) : Statement :=
  ⟨if below then "lconstraint_below" else "lconstraint", [.ident object, .quoted label]⟩

/-- Starts an activation bar. -/
def activate (object : String) : Statement :=
  ⟨"active", [.ident object]⟩

/-- Ends the innermost activation bar. -/
def deactivate (object : String) : Statement :=
  ⟨"inactive", [.ident object]⟩

/-- Draws a message. -/
def message (sender target label : String) : Statement :=
  ⟨"message", [.ident sender, .ident target, .quoted label]⟩

/-- Draws a return message. -/
def returnMessage (sender target label : String) : Statement :=
  ⟨"rmessage", [.ident sender, .ident target, .quoted label]⟩

/-- Draws a message that creates its target. -/
def createMessage (sender target label : String) : Statement :=
  ⟨"cmessage", [.ident sender, .ident target, .quoted label]⟩

/-- Draws a message that destroys its target. -/
def destroyMessage (sender target : String) : Statement :=
  ⟨"dmessage", [.ident sender, .ident target]⟩

/-- Ends a lifeline with a cross. -/
def delete (object : String) : Statement :=
  ⟨"delete", [.ident object]⟩

/-- Ends a lifeline at the bottom of the diagram. -/
def complete (object : String) : Statement :=
  ⟨"complete", [.ident object]⟩

end Statement

end Lifelines
