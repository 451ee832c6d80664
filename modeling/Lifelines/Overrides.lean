import Lifelines.Json.Decode
import Lifelines.Settings.Error

/-!
# Parameters from a file

A file may hold values for parameters as one JSON object. The members are taken
in the order of their names, whatever their order in the file, and of two
members with one name the later counts.

* `Overrides.load`: the members of a file;
* `Overrides.apply`: setting them one after the other, up to the first that is
  refused.
-/

namespace Lifelines

/-- Values for parameters, by name. -/
abbrev Overrides := List (String × ParamValue)

namespace Overrides

/-- Puts a member among members sorted by name, in place of one with its name. -/
def insertMember {α : Type} (name : String) (value : α) :
    List (String × α) → List (String × α)
  | [] => [(name, value)]
  | (other, v) :: rest =>
    if name < other then (name, value) :: (other, v) :: rest
    else if name = other then (name, value) :: rest
    else (other, v) :: insertMember name value rest

/-- Members sorted by name, each name once with its last value. -/
def sortMembers {α : Type} (members : List (String × α)) : List (String × α) :=
  members.foldl (fun sorted m => insertMember m.1 m.2 sorted) []

/-- The values of sorted members; the first that is none is named. -/
def ofMembers : List (String × Json) → Except ConfigError Overrides
  | [] => .ok []
  | (name, json) :: rest =>
    match ParamValue.ofJson? json with
    | some value => (ofMembers rest).map ((name, value) :: ·)
    | none => .error (.notParamValue name)

/-- The values in the text of a file. -/
def ofText (path text : String) : Except ConfigError Overrides :=
  match Json.parse? text with
  | some (.object members) => ofMembers (sortMembers members)
  | _ => .error (.paramsNotObject path)

/-- The values in a file. -/
def load (files : FileTree) (path : String) : Except ConfigError Overrides :=
  match files.readText path with
  | .ok text => ofText path text
  | .error e => .error (.paramsUnreadable path e)

/-- Sets parameters one after the other, up to the first that is refused; those
    before it stay set. -/
def apply : Overrides → ExceptT ConfigError (StateM ParamSet) Unit
  | [] => return
  | (name, value) :: rest => do
    match (← get).set name value with
    | .ok params => set params
    | .error e => throw (.invalidOverride name e)
    apply rest

/-- Sets parameters of a set: whether all were accepted, and the set after it. -/
def applyTo (overrides : Overrides) (params : ParamSet) : Except ConfigError Unit × ParamSet :=
  (ExceptT.run overrides.apply).run params

end Overrides

end Lifelines
