import Lifelines.Decimal.Layout

/-!
# Layout parameters

Nine parameters govern how a diagram is laid out. Each is written into a
variable of the pic program that the drawing macros read. Eight of them are
numbers, in inches; one is a flag.

A parameter takes a value if the value is of the parameter's kind. A number is
never taken unless it is finite. A flag also takes a number that is zero or one
up to the machine precision.

* `Param.accept`: the value that a parameter stores for a value it is given, or
  why it refuses it;
* `ParamSet.set`: giving a value to the parameter with a name;
* `ParamSet.assignments`, `ParamSet.describe`: the set written for pic and for a
  reader.
-/

namespace Lifelines

/-- The value of a parameter. -/
inductive ParamValue where
  | number (x : Float)
  | flag (b : Bool)
  deriving BEq, Repr

/-- The written form of a value; a flag is written as one digit. -/
def ParamValue.text : ParamValue → String
  | number x => Decimal.plain.text x
  | flag b => if b then "1" else "0"

/-- The kinds of values. -/
inductive ParamKind where
  | numeric
  | boolean
  deriving DecidableEq, Repr

/-- The word for a kind in messages. -/
def ParamKind.text : ParamKind → String
  | numeric => "numeric"
  | boolean => "boolean"

/-- The layout parameters. -/
inductive Param where
  | boxHeight
  | boxWidth
  | activeWidth
  | messageSpacing
  | objectSpacing
  | dashInterval
  | diagramWidth
  | diagramHeight
  | underline
  deriving DecidableEq, Repr

/-- Why a parameter is not set. -/
inductive ParamError where
  /-- No parameter has the name. -/
  | unknown (name : String)
  /-- The value is not of the parameter's kind. -/
  | wrongKind (param : Param)
  /-- The number is infinite, or not a number. -/
  | notFinite (param : Param) (value : Float)
  deriving Repr

namespace Param

/-- All parameters, in the order in which they are listed. -/
def all : List Param :=
  [boxHeight, boxWidth, activeWidth, messageSpacing, objectSpacing, dashInterval, diagramWidth,
    diagramHeight, underline]

/-- The name of a parameter. -/
def name : Param → String
  | boxHeight => "boxHeight"
  | boxWidth => "boxWidth"
  | activeWidth => "activeWidth"
  | messageSpacing => "messageSpacing"
  | objectSpacing => "objectSpacing"
  | dashInterval => "dashInterval"
  | diagramWidth => "diagramWidth"
  | diagramHeight => "diagramHeight"
  | underline => "underline"

/-- The pic variable that a parameter is written to. -/
def variableName : Param → String
  | boxHeight => "boxht"
  | boxWidth => "boxwid"
  | activeWidth => "awid"
  | messageSpacing => "spacing"
  | objectSpacing => "movewid"
  | dashInterval => "dashwid"
  | diagramWidth => "maxpswid"
  | diagramHeight => "maxpsht"
  | underline => "underline"

/-- What a parameter is for. -/
def description : Param → String
  | boxHeight => "Object box height"
  | boxWidth => "Object box width"
  | activeWidth => "Active lifeline width"
  | messageSpacing => "Spacing between messages"
  | objectSpacing => "Spacing between objects"
  | dashInterval => "Interval for dashed lines"
  | diagramWidth => "Maximum width of picture"
  | diagramHeight => "Maximum height of picture"
  | underline => "Underline the name of objects"

/-- The kind of values that a parameter holds. -/
def kind : Param → ParamKind
  | underline => .boolean
  | _ => .numeric

/-- The parameter with a name. -/
def ofName? (name : String) : Option Param :=
  all.find? fun p => p.name == name

end Param

/-- The message for a parameter that is not set. -/
def ParamError.message : ParamError → String
  | unknown name => "Unknown parameter: " ++ name
  | wrongKind p => "Parameter " ++ p.name ++ " expects a " ++ p.kind.text ++ " value"
  | notFinite p x =>
    "Parameter " ++ p.name ++ " must be a finite number, got " ++ Decimal.plain.text x

/-- The distance from one to the next larger number. -/
def machinePrecision : Float :=
  2.220446049250313e-16

/-- The flag that a number stands for: one that is zero or one up to the machine
    precision. -/
def flagOfNumber? (x : Float) : Option Bool :=
  if x.abs < machinePrecision then some false
  else if (x - 1.0).abs < machinePrecision then some true
  else none

/-- The value that a parameter stores when it is given one. -/
def Param.accept (p : Param) : ParamValue → Except ParamError ParamValue
  | .number x =>
    if x.isFinite then
      match p.kind, flagOfNumber? x with
      | .numeric, _ => .ok (.number x)
      | .boolean, some b => .ok (.flag b)
      | .boolean, none => .error (.wrongKind p)
    else .error (.notFinite p x)
  | .flag b =>
    match p.kind with
    | .numeric => .error (.wrongKind p)
    | .boolean => .ok (.flag b)

/-- A value for each parameter. -/
structure ParamSet where
  boxHeight : Float := 0.3
  boxWidth : Float := 0.75
  activeWidth : Float := 0.1
  messageSpacing : Float := 0.25
  objectSpacing : Float := 0.75
  dashInterval : Float := 0.05
  diagramWidth : Float := 11.0
  diagramHeight : Float := 11.0
  underline : Bool := true
  deriving BEq, Repr

namespace ParamSet

/-- The value of a parameter. -/
def value (s : ParamSet) : Param → ParamValue
  | .boxHeight => .number s.boxHeight
  | .boxWidth => .number s.boxWidth
  | .activeWidth => .number s.activeWidth
  | .messageSpacing => .number s.messageSpacing
  | .objectSpacing => .number s.objectSpacing
  | .dashInterval => .number s.dashInterval
  | .diagramWidth => .number s.diagramWidth
  | .diagramHeight => .number s.diagramHeight
  | .underline => .flag s.underline

/-- Stores an accepted value; one of the other kind has no place and changes
    nothing. -/
def store (s : ParamSet) : Param → ParamValue → ParamSet
  | .boxHeight, .number x => { s with boxHeight := x }
  | .boxWidth, .number x => { s with boxWidth := x }
  | .activeWidth, .number x => { s with activeWidth := x }
  | .messageSpacing, .number x => { s with messageSpacing := x }
  | .objectSpacing, .number x => { s with objectSpacing := x }
  | .dashInterval, .number x => { s with dashInterval := x }
  | .diagramWidth, .number x => { s with diagramWidth := x }
  | .diagramHeight, .number x => { s with diagramHeight := x }
  | .underline, .flag b => { s with underline := b }
  | _, _ => s

/-- Gives a value to a parameter. -/
def setValue (s : ParamSet) (p : Param) (v : ParamValue) : Except ParamError ParamSet :=
  (p.accept v).map (s.store p)

/-- Gives a value to the parameter with a name. -/
def set (s : ParamSet) (name : String) (v : ParamValue) : Except ParamError ParamSet :=
  match Param.ofName? name with
  | some p => s.setValue p v
  | none => .error (.unknown name)

/-- The value of the parameter with a name. -/
def get (s : ParamSet) (name : String) : Except ParamError ParamValue :=
  match Param.ofName? name with
  | some p => .ok (s.value p)
  | none => .error (.unknown name)

/-- The assignments to the pic variables, one for each parameter. -/
def assignments (s : ParamSet) : List String :=
  Param.all.map fun p => p.variableName ++ "=" ++ (s.value p).text ++ ";"

/-- The lines that describe one parameter and its value. -/
def describeParam (s : ParamSet) (p : Param) : List String :=
  ["   param key: " ++ p.name,
    " description: " ++ p.description,
    "pic variable: " ++ p.variableName,
    "       value: " ++ (s.value p).text,
    ""]

/-- A listing of all parameters for a reader. -/
def describe (s : ParamSet) : String :=
  "\n".intercalate (Param.all.flatMap s.describeParam)

end ParamSet

end Lifelines
