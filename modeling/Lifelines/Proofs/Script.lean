import Lifelines.Draw

/-!
# What an operation answers and writes

An operation is carried out step by step, and a step may be refused when
others have already changed the diagram. Seen from outside none of this shows:
what an operation does is settled by the diagram that it starts from. Either it
is refused and the diagram stays as it is, or it answers and writes some
statements, each with its effect.

* `SyncMode.switch`, `SyncMode.around`: the statements that set a style, and those
  that set it for one statement;
* `Op.script`: why an operation is refused, or what it answers and writes.

That an operation does what its script says is shown in
`Lifelines.Proofs.Operation`.
-/

namespace Lifelines

namespace SyncMode

/-- What switches from the style in force, if there is one, to another. -/
def switch (before : Option SyncMode) (mode : SyncMode) : List Statement :=
  if before = some mode then [] else [mode.statement]

/-- A statement drawn in a style, if one is given. Afterwards the style before is in
    force again, if there was one. -/
def around (before style : Option SyncMode) (s : Statement) : List Statement :=
  match style, before with
  | none, _ => [s]
  | some mode, none => switch none mode ++ [s]
  | some mode, some old => switch (some old) mode ++ s :: switch (some mode) old

/-- A statement is drawn, whatever the style. -/
theorem mem_around (before style : Option SyncMode) (s : Statement) :
    s ∈ around before style s := by
  cases style <;> cases before <;> simp [around]

end SyncMode

/-- What is looked up first is found if the whole is not refused. -/
theorem exists_of_bind_eq_ok {α β : Type} {x : Except DrawError α} {f : α → Except DrawError β}
    {b : β} (h : x >>= f = .ok b) : ∃ a, x = .ok a ∧ f a = .ok b := by
  cases x with
  | error e => cases h
  | ok a => exact ⟨a, rfl, h⟩

/-- The lifelines of a sender and a target, both of which must be alive. -/
def Diagram.liveEnds (d : Diagram) (sender target : Handle) :
    Except DrawError (Lifeline × Lifeline) := do
  let s ← d.liveLifeline sender
  let t ← d.liveLifeline target
  return (s, t)

namespace Op

/-- What an operation answers and writes on a diagram, or why it is refused. -/
def script (d : Diagram) : Op → Except DrawError (Reply × List Statement)
  | addParticipant p =>
    .ok (.handle ⟨d.lifelines.length⟩,
      [p.declaration (NameKind.participant.name d.names.issued)])
  | setMode mode => .ok (.done, SyncMode.switch d.mode mode)
  | step n => .ok (.done, List.replicate n .step)
  | beginFrame left label steps => do
    let l ← d.liveLifeline left
    let name := NameKind.frame.name d.names.issued
    .ok (.name name, List.replicate steps .step ++ [.beginFrame l.name name label])
  | endFrame right name steps => do
    let r ← d.liveLifeline right
    if d.openFrames.contains name then
      .ok (.done, List.replicate steps .step ++ [.endFrame r.name name])
    else .error (.unmatchedFrame name)
  | comment p c => do
    let l ← d.liveLifeline p
    let name := NameKind.comment.name d.names.issued
    .ok (.name name, [.comment l.name name (c.movement.getD "") c.size c.text])
  | connectToComment p name => do
    let l ← d.liveLifeline p
    if d.comments.contains name then .ok (.done, [.connectToComment l.name name])
    else .error (.unknownComment name)
  | objectConstraint text => .ok (.done, [.objectConstraint text])
  | lineConstraint p text below => do
    let l ← d.liveLifeline p
    .ok (.done, [.lineConstraint l.name text below])
  | setParam name value =>
    match d.params.set name value with
    | .ok _ => .ok (.done, [])
    | .error e => .error (.param e)
  | activate p => do
    let l ← d.liveLifeline p
    .ok (.done, [.activate l.name])
  | deactivate p => do
    let l ← d.liveLifeline p
    .ok (.done, if l.depth = 0 then [] else [.deactivate l.name])
  | delete p => do
    let l ← d.liveLifeline p
    .ok (.done, [.delete l.name])
  | message sender target text => do
    let (s, t) ← d.liveEnds sender target
    .ok (.done, [.message s.name t.name text])
  | returnMessage sender target text => do
    let (s, t) ← d.liveEnds sender target
    .ok (.done, [.returnMessage s.name t.name text])
  | createInstance sender target label style => do
    let (s, t) ← d.liveEnds sender target
    if t.created then .error (.alreadyCreated t.name (t.label.getD ""))
    else .ok (.done, SyncMode.around d.mode style (.createMessage s.name t.name label))
  | destroyInstance sender target style => do
    let (s, t) ← d.liveEnds sender target
    .ok (.done, SyncMode.around d.mode style (.destroyMessage s.name t.name))
  | pushMethod sender target request mode => do
    let (s, t) ← d.liveEnds sender target
    .ok (.done, .step :: SyncMode.switch d.mode mode ++
      [.message s.name t.name request, .activate t.name])
  | popMethod sender target response mode => do
    let (s, t) ← d.liveEnds sender target
    .ok (.done, SyncMode.switch d.mode mode ++ .returnMessage t.name s.name response ::
      (if t.depth = 0 then [] else [.deactivate t.name]) ++ [.step])
  | callMethod sender target call => do
    let (s, t) ← d.liveEnds sender target
    let answer :=
      match call.response with
      | some response =>
        .activate t.name :: List.replicate call.steps .step ++
          SyncMode.switch (some call.requestMode) call.responseMode ++
          [.returnMessage t.name s.name response, .deactivate t.name]
      | none => []
    .ok (.done, .step :: SyncMode.switch d.mode call.requestMode ++
      .message s.name t.name call.request :: answer ++ [.step])

/-- The layout parameters after an operation that is not refused. -/
def newParams (params : ParamSet) : Op → ParamSet
  | setParam name value =>
    match params.set name value with
    | .ok params' => params'
    | .error _ => params
  | _ => params

end Op

end Lifelines
