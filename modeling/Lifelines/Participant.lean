import Lifelines.Statement

/-!
# Participants

A participant of a diagram is an object, an actor from outside, or a
placeholder: the column of an object that a message creates later. What the
diagram keeps about it is its *lifeline*: the generated name, the current
label, how many activation bars are open, whether it was created by a message,
and whether it is still alive.
-/

namespace Lifelines

/-- The ways in which a participant is declared. -/
inductive ParticipantKind where
  | object
  | actor
  | placeholder
  deriving DecidableEq, Repr

/-- A participant to be registered. -/
inductive Participant where
  | object (label : String)
  | actor (label : String)
  | placeholder
  deriving DecidableEq, Repr

namespace Participant

/-- How the participant is declared. -/
def kind : Participant → ParticipantKind
  | object _ => .object
  | actor _ => .actor
  | placeholder => .placeholder

/-- The label, which a placeholder does not have. -/
def label : Participant → Option String
  | object label => some label
  | actor label => some label
  | placeholder => none

/-- The statement that declares the participant under a name. -/
def declaration (name : String) : Participant → Statement
  | object label => .object name label
  | actor label => .actor name label
  | placeholder => .placeholder name

end Participant

/-- A participant's number in the order of registration. -/
structure Handle where
  /-- The number, counted from zero. -/
  index : Nat
  deriving DecidableEq, Repr

/-- What a diagram keeps about a participant. It is kept for good, so a handle to
    a participant that is gone is told from one that never was. -/
structure Lifeline where
  /-- The generated name. -/
  name : String
  /-- How the participant was declared. -/
  kind : ParticipantKind
  /-- The label it has now. -/
  label : Option String
  /-- The number of open activation bars. -/
  depth : Nat := 0
  /-- Whether a message created it. -/
  created : Bool := false
  /-- Whether it may still be drawn on. -/
  alive : Bool := true
  deriving DecidableEq, Repr

/-- The lifeline of a participant that has just been registered. -/
def Participant.lifeline (p : Participant) (name : String) : Lifeline where
  name := name
  kind := p.kind
  label := p.label

/-- The style of the messages drawn from now on. -/
inductive SyncMode where
  | sync
  | async
  deriving DecidableEq, Repr

/-- The name of the macro that switches to a style. -/
def SyncMode.name : SyncMode → String
  | sync => "sync"
  | async => "async"

/-- The statement that switches to a style. -/
def SyncMode.statement (mode : SyncMode) : Statement :=
  ⟨mode.name, []⟩

/-- A box of text attached to a lifeline. -/
structure Comment where
  /-- The text, shown line by line. -/
  text : String
  /-- How to move from the lifeline to the box, in pic. -/
  movement : Option String := none
  /-- The size of the box, in pic. -/
  size : Option String := none
  deriving DecidableEq, Repr

/-- A request, and the reply to it if there is one. -/
structure Call where
  /-- The text of the request. -/
  request : String
  /-- The text of the reply. -/
  response : Option String := none
  /-- The steps between request and reply. -/
  steps : Nat := 0
  /-- The style of the request. -/
  requestMode : SyncMode := .sync
  /-- The style of the reply. -/
  responseMode : SyncMode := .async
  deriving DecidableEq, Repr

end Lifelines
