import Lifelines.Draw

/-!
# What a statement says about the state

A diagram keeps a state beside its log, but each change of the state goes with
a statement that is written, and the statement says which change it is. Its
*effect* is read off the macro and the arguments alone.

* `Statement.names`: the names of the elements that a statement refers to;
* `Statement.effect`: the change that a statement stands for;
* `Diagram.write`: a statement written, together with its effect. Elements are
  found by their names, as a reader of the log must find them, and not by
  handles;
* `Diagram.writeAll`: statements written one after the other.
-/

namespace Lifelines

/-- A change of the state of a diagram. -/
inductive Effect where
  /-- A participant is registered. -/
  | declare (name : String) (kind : ParticipantKind) (label : Option String)
  /-- A style comes into force. -/
  | style (mode : SyncMode)
  /-- A frame is opened. -/
  | openFrame (frame : String)
  /-- A frame is closed. -/
  | closeFrame (frame : String)
  /-- A comment is attached. -/
  | note (comment : String)
  /-- An activation bar starts. -/
  | activate (name : String)
  /-- An activation bar ends. -/
  | deactivate (name : String)
  /-- A message creates a participant. -/
  | create (name label : String)
  /-- A lifeline ends. -/
  | leave (name : String)
  /-- The statement is only drawn. -/
  | none
  deriving DecidableEq, Repr

/-- The name that an argument refers to. -/
def Arg.name? : Arg → Option String
  | ident name => some name
  | _ => none

@[simp] theorem Arg.name?_ident (name : String) : (ident name).name? = some name := rfl
@[simp] theorem Arg.name?_raw (fragment : String) : (raw fragment).name? = none := rfl

/-- A text argument is no name, led by a keyword or not. -/
@[simp]
theorem Arg.name?_ofText (lead : Option String) (text : String) :
    (Arg.ofText lead text).name? = none := by
  unfold Arg.ofText
  split <;> rfl

namespace Statement

/-- The names that a statement refers to. -/
def names (s : Statement) : List String :=
  s.args.filterMap Arg.name?

/-- A statement references the names that stand among its arguments. -/
theorem references_iff {s : Statement} {n : String} : s.references n ↔ n ∈ s.names := by
  simp only [references, names, List.contains_iff_mem, List.mem_filterMap]
  constructor
  · intro h
    exact ⟨_, h, rfl⟩
  · rintro ⟨a, ha, hn⟩
    cases a with
    | ident name => cases hn; exact ha
    | quoted | raw | lines => cases hn

section

variable (a b text : String)

@[simp] theorem names_step : step.names = [] := rfl
@[simp] theorem names_beginFrame : (beginFrame a b text).names = [a, b] := rfl
@[simp] theorem names_endFrame : (endFrame a b).names = [a, b] := rfl
@[simp] theorem names_connectToComment : (connectToComment a b).names = [a, b] := rfl
@[simp] theorem names_objectConstraint : (objectConstraint text).names = [] := rfl
@[simp] theorem names_activate : (activate a).names = [a] := rfl
@[simp] theorem names_deactivate : (deactivate a).names = [a] := rfl
@[simp] theorem names_message : (message a b text).names = [a, b] := rfl
@[simp] theorem names_returnMessage : (returnMessage a b text).names = [a, b] := rfl
@[simp] theorem names_createMessage : (createMessage a b text).names = [a, b] := rfl
@[simp] theorem names_destroyMessage : (destroyMessage a b).names = [a, b] := rfl
@[simp] theorem names_delete : (delete a).names = [a] := rfl
@[simp] theorem names_complete : (complete a).names = [a] := rfl
@[simp] theorem names_statement (mode : SyncMode) : mode.statement.names = [] := rfl

@[simp]
theorem names_comment (movement : String) (size : Option String) :
    (comment a b movement size text).names = [a, b] := by
  simp [names, comment]

@[simp]
theorem names_lineConstraint (below : Bool) : (lineConstraint a text below).names = [a] := rfl

@[simp]
theorem names_declaration (p : Participant) : (p.declaration a).names = [a] := by
  cases p <;> rfl

end

/-! ### Effects -/

/-- The change that a statement stands for. -/
def effect : Statement → Effect
  | ⟨"object", [.ident name, .quoted label]⟩ => .declare name .object label
  | ⟨"actor", [.ident name, .quoted label]⟩ => .declare name .actor label
  | ⟨"pobject", [.ident name]⟩ => .declare name .placeholder none
  | ⟨"sync", []⟩ => .style .sync
  | ⟨"async", []⟩ => .style .async
  | ⟨"begin_frame", [_, .ident frame, _]⟩ => .openFrame frame
  | ⟨"end_frame", [_, .ident frame]⟩ => .closeFrame frame
  | ⟨"comment", [_, .ident comment, _, _]⟩ => .note comment
  | ⟨"active", [.ident name]⟩ => .activate name
  | ⟨"inactive", [.ident name]⟩ => .deactivate name
  | ⟨"cmessage", [_, .ident target, .quoted label]⟩ => .create target label
  | ⟨"dmessage", [_, .ident target]⟩ => .leave target
  | ⟨"delete", [.ident name]⟩ => .leave name
  -- written only when the diagram is finished
  | ⟨"complete", [.ident name]⟩ => .leave name
  | _ => .none

section

variable (a b text : String)

@[simp] theorem effect_step : step.effect = .none := rfl
@[simp] theorem effect_beginFrame : (beginFrame a b text).effect = .openFrame b := rfl
@[simp] theorem effect_endFrame : (endFrame a b).effect = .closeFrame b := rfl
@[simp] theorem effect_connectToComment : (connectToComment a b).effect = .none := rfl
@[simp] theorem effect_objectConstraint : (objectConstraint text).effect = .none := rfl
@[simp] theorem effect_activate : (activate a).effect = .activate a := rfl
@[simp] theorem effect_deactivate : (deactivate a).effect = .deactivate a := rfl
@[simp] theorem effect_message : (message a b text).effect = .none := rfl
@[simp] theorem effect_returnMessage : (returnMessage a b text).effect = .none := rfl
@[simp] theorem effect_createMessage : (createMessage a b text).effect = .create b text := rfl
@[simp] theorem effect_destroyMessage : (destroyMessage a b).effect = .leave b := rfl
@[simp] theorem effect_delete : (delete a).effect = .leave a := rfl
@[simp] theorem effect_complete : (complete a).effect = .leave a := rfl

@[simp]
theorem effect_comment (movement : String) (size : Option String) :
    (comment a b movement size text).effect = .note b := rfl

@[simp]
theorem effect_lineConstraint (below : Bool) : (lineConstraint a text below).effect = .none := by
  cases below <;> rfl

@[simp]
theorem effect_statement (mode : SyncMode) : mode.statement.effect = .style mode := by
  cases mode <;> rfl

@[simp]
theorem effect_declaration (p : Participant) :
    (p.declaration a).effect = .declare a p.kind p.label := by
  cases p <;> rfl

end

/-! ### Statements with an effect -/

variable {s : Statement} {n : String}

/-- Only a style statement selects a style. -/
theorem effect_eq_style_iff {mode : SyncMode} : s.effect = .style mode ↔ s = mode.statement := by
  constructor
  · intro h
    unfold effect at h
    split at h <;> cases h <;> rfl
  · rintro rfl
    exact effect_statement mode

/-- Only an activation activates. -/
theorem effect_eq_activate_iff : s.effect = .activate n ↔ s = .activate n := by
  constructor
  · intro h
    unfold effect at h
    split at h <;> cases h
    rfl
  · rintro rfl
    rfl

/-- Only a deactivation deactivates. -/
theorem effect_eq_deactivate_iff : s.effect = .deactivate n ↔ s = .deactivate n := by
  constructor
  · intro h
    unfold effect at h
    split at h <;> cases h
    rfl
  · rintro rfl
    rfl

end Statement

namespace Diagram

variable (d : Diagram)

/-- Changes what is kept about the participants with a name. -/
def change (name : String) (f : Lifeline → Lifeline) : Diagram :=
  { d with lifelines := d.lifelines.map fun l => if l.name = name then f l else l }

/-- The diagram after a change of its state. -/
def apply : Effect → Diagram
  | .declare name kind label =>
    { d with lifelines := d.lifelines ++ [{ name, kind, label }], names := ⟨d.names.issued + 1⟩ }
  | .style mode => { d with mode := some mode }
  | .openFrame frame =>
    { d with openFrames := d.openFrames ++ [frame], names := ⟨d.names.issued + 1⟩ }
  | .closeFrame frame => { d with openFrames := d.openFrames.erase frame }
  | .note comment => { d with comments := d.comments ++ [comment], names := ⟨d.names.issued + 1⟩ }
  | .activate name => d.change name fun l => { l with depth := l.depth + 1 }
  | .deactivate name => d.change name fun l => { l with depth := l.depth - 1 }
  | .create name label => d.change name fun l => { l with created := true, label := some label }
  | .leave name => d.change name fun l => { l with alive := false }
  | .none => d

/-- The diagram after a statement is written, the state being changed as it says. -/
def write (s : Statement) : Diagram :=
  { d.apply s.effect with log := d.log ++ [s] }

/-- The diagram after some statements are written. -/
def writeAll (ss : List Statement) : Diagram :=
  ss.foldl write d

@[simp]
theorem writeAll_nil : d.writeAll [] = d := rfl

@[simp]
theorem writeAll_cons (s : Statement) (ss : List Statement) :
    d.writeAll (s :: ss) = (d.write s).writeAll ss := rfl

@[simp]
theorem writeAll_append (ss ts : List Statement) :
    d.writeAll (ss ++ ts) = (d.writeAll ss).writeAll ts :=
  List.foldl_append

@[simp]
theorem log_write (s : Statement) : (d.write s).log = d.log ++ [s] := rfl

/-- Writing a script adds exactly its statements to the log. -/
theorem log_writeAll (ss : List Statement) : (d.writeAll ss).log = d.log ++ ss := by
  induction ss generalizing d with
  | nil => simp
  | cons s ss ih => simp [ih]

/-- The layout parameters have no part in what is written. -/
theorem write_params (s : Statement) (params : ParamSet) :
    { d with params := params }.write s = { d.write s with params := params } := by
  unfold write apply
  split <;> rfl

@[simp]
theorem params_write (s : Statement) : (d.write s).params = d.params := by
  unfold write apply
  split <;> rfl

/-- No script changes the parameters. -/
theorem params_writeAll (ss : List Statement) : (d.writeAll ss).params = d.params := by
  induction ss generalizing d with
  | nil => rfl
  | cons s ss ih => simp [ih]

/-- What a script does is independent of the parameters. -/
theorem writeAll_params (ss : List Statement) (params : ParamSet) :
    { d with params := params }.writeAll ss = { d.writeAll ss with params := params } := by
  induction ss generalizing d with
  | nil => rfl
  | cons s ss ih => rw [writeAll_cons, write_params, ih, writeAll_cons]

/-! ### Lifelines after a statement -/

end Diagram

namespace Participant

variable (p : Participant) (n : String)

@[simp] theorem name_lifeline : (p.lifeline n).name = n := rfl
@[simp] theorem created_lifeline : (p.lifeline n).created = false := rfl
@[simp] theorem alive_lifeline : (p.lifeline n).alive = true := rfl

end Participant

/-- What is kept about a participant after a change. -/
def Lifeline.after (l : Lifeline) : Effect → Lifeline
  | .activate name => if l.name = name then { l with depth := l.depth + 1 } else l
  | .deactivate name => if l.name = name then { l with depth := l.depth - 1 } else l
  | .create name label =>
    if l.name = name then { l with created := true, label := some label } else l
  | .leave name => if l.name = name then { l with alive := false } else l
  | _ => l

@[simp]
theorem Lifeline.name_after (l : Lifeline) (e : Effect) : (l.after e).name = l.name := by
  unfold after
  split <;> first | rfl | split <;> rfl

@[simp]
theorem Lifeline.kind_after (l : Lifeline) (e : Effect) : (l.after e).kind = l.kind := by
  unfold after
  split <;> first | rfl | split <;> rfl

namespace Diagram

variable {d : Diagram}

/-- A change is one of each lifeline, and perhaps of how many there are. -/
theorem lifelines_write {s : Statement} : (d.write s).lifelines =
    d.lifelines.map (Lifeline.after · s.effect) ++
      match s.effect with
      | .declare name kind label => [{ name, kind, label }]
      | _ => [] := by
  cases he : s.effect <;> simp [write, apply, change, he, Lifeline.after]

/-! ### Statements that are only drawn -/

theorem write_of_effect_none {s : Statement} (h : s.effect = .none) :
    d.write s = { d with log := d.log ++ [s] } := by
  rw [write, h, apply]

/-- Steps are only added to the log. -/
theorem writeAll_replicate_step (n : Nat) :
    d.writeAll (List.replicate n .step) = { d with log := d.log ++ List.replicate n .step } := by
  induction n generalizing d with
  | zero => simp
  | succ n ih => rw [List.replicate_succ, writeAll_cons, ih, write_of_effect_none rfl]; simp

end Diagram

end Lifelines
