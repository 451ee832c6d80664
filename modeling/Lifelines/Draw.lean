import Lifelines.Diagram

/-!
# Drawing operations

A drawing operation changes a diagram and answers, or is refused. A refusal
does not undo what the operation has changed before it; that every operation
checks its arguments first, so that a refused one has changed nothing, is a
property of the operations and not of how they are put together.

Operations on participants look at the sender first and at the target second,
and only then at what else may be wrong.

* `Draw`: computations that change a diagram;
* `Draw.addParticipant`, `Draw.message`, ...: the operations;
* `Op`, `Op.perform`: the operations as data.
-/

namespace Lifelines

/-- Computations that change a diagram and may be refused on the way. -/
abbrev Draw := ExceptT DrawError (StateM Diagram)

namespace Draw

/-- Appends a statement to the log. -/
def emit (s : Statement) : Draw Unit :=
  modify fun d => { d with log := d.log ++ [s] }

/-- Takes the next name of a kind. -/
def issue (kind : NameKind) : Draw String := do
  let d ← get
  let (name, names) := d.names.next kind
  set { d with names := names }
  return name

/-- The lifeline of a participant, which must be alive. -/
def live (p : Handle) : Draw Lifeline := do
  match (← get).liveLifeline p with
  | .ok l => return l
  | .error e => throw e

/-- The names of a sender and a target, both of which must be alive. -/
def endpoints (sender target : Handle) : Draw (String × String) := do
  let s ← live sender
  let t ← live target
  return (s.name, t.name)

/-- Changes what is kept about a participant. -/
def update (p : Handle) (change : Lifeline → Lifeline) : Draw Unit :=
  modify fun d => { d with lifelines := d.lifelines.modify p.index change }

/-! ### Participants -/

/-- Registers a participant and declares it. -/
def addParticipant (p : Participant) : Draw Handle := do
  let handle := ⟨(← get).lifelines.length⟩
  let name ← issue .participant
  emit (p.declaration name)
  modify fun d => { d with lifelines := d.lifelines ++ [p.lifeline name] }
  return handle

/-! ### Style and time -/

/-- Switches to a style; the style that is in force already needs no statement. -/
def setMode (mode : SyncMode) : Draw Unit := do
  if (← get).mode = some mode then return
  modify fun d => { d with mode := some mode }
  emit mode.statement

/-- Draws in a style, if one is given, and then goes back to the style that was in
    force before, if there was one. -/
def inStyle (style : Option SyncMode) (draw : Draw Unit) : Draw Unit := do
  let before := (← get).mode
  if let some mode := style then setMode mode
  draw
  match style, before with
  | some _, some mode => setMode mode
  | _, _ => return

/-- Advances time by `n` steps. -/
def step (n : Nat) : Draw Unit :=
  modify fun d => { d with log := d.log ++ List.replicate n .step }

/-! ### Frames, comments and constraints -/

/-- Opens a frame after some steps; answers its name. -/
def beginFrame (left : Handle) (label : String) (steps : Nat) : Draw String := do
  let l ← live left
  step steps
  let name ← issue .frame
  emit (.beginFrame l.name name label)
  modify fun d => { d with openFrames := d.openFrames ++ [name] }
  return name

/-- Closes an open frame after some steps. Frames close in any order. -/
def endFrame (right : Handle) (name : String) (steps : Nat) : Draw Unit := do
  let r ← live right
  unless (← get).openFrames.contains name do throw (.unmatchedFrame name)
  step steps
  modify fun d => { d with openFrames := d.openFrames.erase name }
  emit (.endFrame r.name name)

/-- Attaches a comment to a lifeline; answers its name. -/
def comment (p : Handle) (c : Comment) : Draw String := do
  let l ← live p
  let name ← issue .comment
  emit (.comment l.name name (c.movement.getD "") c.size c.text)
  modify fun d => { d with comments := d.comments ++ [name] }
  return name

/-- Draws a line from a lifeline to a comment. -/
def connectToComment (p : Handle) (name : String) : Draw Unit := do
  let l ← live p
  unless (← get).comments.contains name do throw (.unknownComment name)
  emit (.connectToComment l.name name)

/-- Puts a constraint under the object declared last. -/
def objectConstraint (text : String) : Draw Unit :=
  emit (.objectConstraint text)

/-- Puts a constraint beside a lifeline, or just below that point. -/
def lineConstraint (p : Handle) (text : String) (below : Bool) : Draw Unit := do
  let l ← live p
  emit (.lineConstraint l.name text below)

/-- Gives a value to the layout parameter with a name. -/
def setParam (name : String) (value : ParamValue) : Draw Unit := do
  match (← get).params.set name value with
  | .ok params => modify fun d => { d with params := params }
  | .error e => throw (.param e)

/-! ### Lifelines -/

/-- Starts an activation bar. -/
def activate (p : Handle) : Draw Unit := do
  let l ← live p
  update p fun l => { l with depth := l.depth + 1 }
  emit (.activate l.name)

/-- Ends the innermost activation bar; without one, nothing is drawn. -/
def deactivate (p : Handle) : Draw Unit := do
  let l ← live p
  if l.depth = 0 then return
  update p fun l => { l with depth := l.depth - 1 }
  emit (.deactivate l.name)

/-- The number of open activation bars of a participant that is alive. -/
def depth (p : Handle) : Draw Nat := do
  let l ← live p
  return l.depth

/-- Marks a participant as gone. -/
def retire (p : Handle) : Draw Unit := do
  let _ ← live p
  update p fun l => { l with alive := false }

/-- Ends a lifeline with a cross. -/
def delete (p : Handle) : Draw Unit := do
  let l ← live p
  emit (.delete l.name)
  retire p

/-! ### Messages -/

/-- Draws a message, perhaps to the sender itself. -/
def message (sender target : Handle) (text : String) : Draw Unit := do
  let (s, t) ← endpoints sender target
  emit (.message s t text)

/-- Draws a return message. -/
def returnMessage (sender target : Handle) (text : String) : Draw Unit := do
  let (s, t) ← endpoints sender target
  emit (.returnMessage s t text)

/-- Creates the target by a message and gives it a label; a participant is created
    at most once. -/
def createInstance (sender target : Handle) (label : String) (style : Option SyncMode) :
    Draw Unit := do
  let (s, t) ← endpoints sender target
  let l ← live target
  if l.created then throw (.alreadyCreated l.name (l.label.getD ""))
  update target fun l => { l with created := true, label := some label }
  inStyle style (emit (.createMessage s t label))

/-- Destroys the target by a message. -/
def destroyInstance (sender target : Handle) (style : Option SyncMode) : Draw Unit := do
  let (s, t) ← endpoints sender target
  inStyle style (emit (.destroyMessage s t))
  retire target

/-- Sends a request and leaves the target active. -/
def pushMethod (sender target : Handle) (request : String) (mode : SyncMode) : Draw Unit := do
  let _ ← endpoints sender target
  step 1
  setMode mode
  message sender target request
  activate target

/-- Draws the target's reply and ends its activation. -/
def popMethod (sender target : Handle) (response : String) (mode : SyncMode) : Draw Unit := do
  let _ ← endpoints sender target
  setMode mode
  returnMessage target sender response
  deactivate target
  step 1

/-- Draws a call: a step, the request, and, if there is a reply, the target's
    activation from the request to the reply; then a step. -/
def callMethod (sender target : Handle) (call : Call) : Draw Unit := do
  let _ ← endpoints sender target
  step 1
  setMode call.requestMode
  message sender target call.request
  if let some response := call.response then
    activate target
    step call.steps
    setMode call.responseMode
    returnMessage target sender response
    deactivate target
  step 1

end Draw

/-! ### Operations as data -/

/-- What an operation answers. -/
inductive Reply where
  /-- Nothing. -/
  | done
  /-- The handle of a participant. -/
  | handle (handle : Handle)
  /-- The name of a frame or a comment. -/
  | name (name : String)
  deriving DecidableEq, Repr

/-- The operations on a diagram that change it. -/
inductive Op where
  | addParticipant (participant : Participant)
  | setMode (mode : SyncMode)
  | step (n : Nat)
  | beginFrame (left : Handle) (label : String) (steps : Nat)
  | endFrame (right : Handle) (name : String) (steps : Nat)
  | comment (p : Handle) (comment : Comment)
  | connectToComment (p : Handle) (name : String)
  | objectConstraint (text : String)
  | lineConstraint (p : Handle) (text : String) (below : Bool)
  | setParam (name : String) (value : ParamValue)
  | activate (p : Handle)
  | deactivate (p : Handle)
  | delete (p : Handle)
  | message (sender target : Handle) (text : String)
  | returnMessage (sender target : Handle) (text : String)
  | createInstance (sender target : Handle) (label : String) (style : Option SyncMode)
  | destroyInstance (sender target : Handle) (style : Option SyncMode)
  | pushMethod (sender target : Handle) (request : String) (mode : SyncMode)
  | popMethod (sender target : Handle) (response : String) (mode : SyncMode)
  | callMethod (sender target : Handle) (call : Call)
  deriving Repr

namespace Op

/-- An operation that answers nothing. -/
def silent (draw : Draw Unit) : Draw Reply := do
  draw
  return .done

/-- Carries an operation out. -/
def perform : Op → Draw Reply
  | addParticipant p => .handle <$> Draw.addParticipant p
  | setMode mode => silent (Draw.setMode mode)
  | step n => silent (Draw.step n)
  | beginFrame left label steps => .name <$> Draw.beginFrame left label steps
  | endFrame right name steps => silent (Draw.endFrame right name steps)
  | comment p c => .name <$> Draw.comment p c
  | connectToComment p name => silent (Draw.connectToComment p name)
  | objectConstraint text => silent (Draw.objectConstraint text)
  | lineConstraint p text below => silent (Draw.lineConstraint p text below)
  | setParam name value => silent (Draw.setParam name value)
  | activate p => silent (Draw.activate p)
  | deactivate p => silent (Draw.deactivate p)
  | delete p => silent (Draw.delete p)
  | message sender target text => silent (Draw.message sender target text)
  | returnMessage sender target text => silent (Draw.returnMessage sender target text)
  | createInstance sender target label style =>
    silent (Draw.createInstance sender target label style)
  | destroyInstance sender target style => silent (Draw.destroyInstance sender target style)
  | pushMethod sender target request mode => silent (Draw.pushMethod sender target request mode)
  | popMethod sender target response mode => silent (Draw.popMethod sender target response mode)
  | callMethod sender target call => silent (Draw.callMethod sender target call)

/-- An operation carried out on a diagram: what it answers and the diagram after
    it. -/
def run (op : Op) (d : Diagram) : Except DrawError Reply × Diagram :=
  (ExceptT.run op.perform).run d

end Op

end Lifelines
