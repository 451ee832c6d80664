import Lifelines.Document
import Lifelines.Naming
import Lifelines.Participant

/-!
# Diagrams

A diagram is a log of statements together with the state that keeps the log
consistent: the registered participants, the style in force, the open frames,
the names of comments, and the source of names. Statements are only ever
appended.

* `DrawError`: why an operation is refused, and `DrawError.message`;
* `Diagram`: the log and the state, and what can be asked of them;
* `Diagram.finish`: the document, once no frame is open.

The operations that draw are in `Lifelines.Draw`.
-/

namespace Lifelines

/-- Why a drawing operation is refused. -/
inductive DrawError where
  /-- A frame is closed that is not open. -/
  | unmatchedFrame (name : String)
  /-- Frames are open when the diagram is finished. -/
  | unclosedFrames (names : List String)
  /-- The participant was destroyed or deleted. -/
  | danglingParticipant (name : String)
  /-- The handle is not one of this diagram. -/
  | unknownParticipant (index : Nat)
  /-- No comment has the name. -/
  | unknownComment (name : String)
  /-- The participant was created before, with a label. -/
  | alreadyCreated (name label : String)
  /-- A parameter is not set. -/
  | param (error : ParamError)
  deriving Repr

namespace DrawError

/-- The message for a refused operation. -/
def message : DrawError → String
  | unmatchedFrame name => "end_frame(" ++ name ++ ") has no matching begin_frame"
  | unclosedFrames names => "frames left open at finish: " ++ ", ".intercalate names
  | danglingParticipant name =>
    "participant " ++ name ++ " was destroyed and can no longer be referenced"
  | unknownParticipant index =>
    "participant handle #" ++ toString index ++ " does not belong to this diagram"
  | unknownComment name => "no comment named " ++ name ++ " in this diagram"
  | alreadyCreated name label =>
    "participant " ++ name ++ " was already created as \"" ++ label ++ "\""
  | param error => error.message

/-- Whether frames are not properly opened and closed. -/
def isMalformedNesting : DrawError → Bool
  | unmatchedFrame _ | unclosedFrames _ => true
  | _ => false

end DrawError

/-- A diagram that is being drawn. -/
structure Diagram where
  /-- The statements drawn so far. -/
  log : List Statement := []
  /-- The registered participants, in order. -/
  lifelines : List Lifeline := []
  /-- The layout parameters. -/
  params : ParamSet := {}
  /-- The names of the open frames, in opening order. -/
  openFrames : List String := []
  /-- The names of the comments, in order. -/
  comments : List String := []
  /-- The style in force, once one has been set. -/
  mode : Option SyncMode := none
  /-- The source of names. -/
  names : NameSource := {}
  deriving Repr

namespace Diagram

/-- The diagram in which nothing has been drawn. -/
def empty : Diagram := {}

/-- What is kept about a participant, be it alive or not. -/
def lifeline (d : Diagram) (h : Handle) : Except DrawError Lifeline :=
  match d.lifelines[h.index]? with
  | some l => .ok l
  | none => .error (.unknownParticipant h.index)

/-- What is kept about a participant that must be alive. -/
def liveLifeline (d : Diagram) (h : Handle) : Except DrawError Lifeline := do
  let l ← d.lifeline h
  if l.alive then .ok l else .error (.danglingParticipant l.name)

/-- Whether a handle belongs to a participant that is alive. -/
def isLive (d : Diagram) (h : Handle) : Bool :=
  match d.lifelines[h.index]? with
  | some l => l.alive
  | none => false

/-- The handles of the participants that are alive, in order. -/
def liveHandles (d : Diagram) : List Handle :=
  ((List.range d.lifelines.length).map Handle.mk).filter d.isLive

/-- The written form of each statement of the log. -/
def lines (d : Diagram) : List String :=
  d.log.map Statement.text

/-- The names of the participants that are alive, in order. -/
def liveNames (d : Diagram) : List String :=
  (d.lifelines.filter Lifeline.alive).map Lifeline.name

/-- Completes the lifelines that are left and hands out the document. No frame
    may be open. -/
def finish (d : Diagram) : Except DrawError Document :=
  if d.openFrames.isEmpty then .ok ⟨d.params, d.log ++ d.liveNames.map Statement.complete⟩
  else .error (.unclosedFrames d.openFrames)

end Diagram

end Lifelines
