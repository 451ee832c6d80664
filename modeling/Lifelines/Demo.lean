import Lifelines.Draw

/-!
# Example diagrams

Diagrams that show what can be drawn. Each is left unfinished, so that its
parameters can still be changed.
-/

namespace Lifelines

/-- The example diagrams. -/
inductive Demo where
  | authentication
  | comment
  | createDestroy
  | externalActor
  | lifelineConstraints
  | nestedActivation
  | concurrentActivations
  deriving DecidableEq, Repr

namespace Demo

/-- All example diagrams, in the order in which they are listed. -/
def all : List Demo :=
  [authentication, comment, createDestroy, externalActor, lifelineConstraints, nestedActivation,
    concurrentActivations]

/-- The name of an example diagram. -/
def name : Demo → String
  | authentication => "authentication"
  | comment => "comment"
  | createDestroy => "create-destroy"
  | externalActor => "external-actor"
  | lifelineConstraints => "lifeline-constraints"
  | nestedActivation => "nested-activation"
  | concurrentActivations => "concurrent-activations"

/-- The example diagram with a name. -/
def ofName? (name : String) : Option Demo :=
  all.find? fun demo => demo.name == name

/-- A numeric parameter gets a value. -/
def setNumber (param : Param) (x : Float) : Draw Unit :=
  Draw.setParam param.name (.number x)

/-- A login call with a reply. -/
def login : Call where
  request := "login(username, password)"
  response := some "sessionID, userInfo"

/-- A login call in a frame. -/
def drawAuthentication : Draw Unit := do
  let client ← Draw.addParticipant (.object "c: client")
  let server ← Draw.addParticipant (.object "s: server")
  setNumber .objectSpacing 1.75
  let frame ← Draw.beginFrame client "Login" 1
  Draw.callMethod client server login
  Draw.endFrame server frame 0

/-- A login call in a frame, with a note beside the server. -/
def drawComment : Draw Unit := do
  let client ← Draw.addParticipant (.object "c: client")
  let server ← Draw.addParticipant (.object "s: server")
  setNumber .objectSpacing 1.75
  let note ← Draw.comment server
    { text := "sessions expire\nafter thirty\nminutes idle"
      movement := some "down 0.5 right"
      size := some "wid 1 ht 0.7" }
  let frame ← Draw.beginFrame client "Login" 1
  Draw.callMethod client server login
  Draw.endFrame server frame 0
  Draw.connectToComment client note

/-- A request of the transaction to the proxy, active for one step. -/
def proxyRequest (transaction proxy : Handle) (request : String) : Draw Unit := do
  Draw.message transaction proxy request
  Draw.activate proxy
  Draw.step 1
  Draw.deactivate proxy

/-- A transaction that a client creates, uses and destroys. -/
def drawCreateDestroy : Draw Unit := do
  let client ← Draw.addParticipant (.object "c:Client")
  let transaction ← Draw.addParticipant .placeholder
  let proxy ← Draw.addParticipant (.object "p:ODBCProxy")
  setNumber .boxWidth 1.1
  setNumber .objectSpacing 0.5
  Draw.step 1
  Draw.activate client
  Draw.createInstance client transaction ":Transaction" (some .sync)
  Draw.objectConstraint "\x7bTransient\x7d"
  Draw.pushMethod client transaction "setActions(a,d,o)" .sync
  Draw.setMode .sync
  proxyRequest transaction proxy "setValues(d,3,4)"
  proxyRequest transaction proxy "setValues(a,\"CO\")"
  Draw.popMethod client transaction "committed" .async
  Draw.destroyInstance client transaction (some .sync)
  Draw.deactivate client
  Draw.step 1

/-- An order that goes from an actor through two objects and back. -/
def drawExternalActor : Draw Unit := do
  let customer ← Draw.addParticipant (.actor ":Customer")
  let tager ← Draw.addParticipant (.object ":OTager")
  let fulfill ← Draw.addParticipant (.object ":OFulfill")
  Draw.step 1
  Draw.message customer tager "submitOrder"
  Draw.message tager fulfill "placeOrder"
  Draw.message fulfill customer "acknowledgeOrder"
  Draw.step 1

/-- A telephone call set up through a switch, with constraints on its timing. -/
def drawLifelineConstraints : Draw Unit := do
  let caller ← Draw.addParticipant (.object "s:Caller")
  let switch ← Draw.addParticipant (.object ":Switch")
  let conversation ← Draw.addParticipant .placeholder
  let receiver ← Draw.addParticipant (.object "r:Caller")
  setNumber .objectSpacing 0.5
  Draw.step 1
  Draw.activate switch
  Draw.setMode .async
  Draw.message caller switch "liftReceiver"
  Draw.setMode .sync
  Draw.message switch caller "setDialTone()"
  Draw.setMode .async
  Draw.message caller switch "*dialDigit(d)"
  Draw.lineConstraint switch "\x7bdialing.executionTime < 30s\x7d" false
  Draw.callMethod switch switch { request := "routeCalls(s,n)" }
  Draw.createInstance switch conversation "c:Convers" (some .sync)
  Draw.activate conversation
  Draw.pushMethod conversation receiver "ring()" .sync
  Draw.setMode .async
  Draw.message receiver conversation "liftReceiver"
  Draw.setMode .sync
  Draw.message conversation switch "connect(r,s)"
  Draw.message switch caller "connect(r)"
  Draw.message switch receiver ""
  Draw.lineConstraint switch "connect(s)" true
  Draw.step 1

/-- Nested activations of a thread, a toolkit and a peer that does not live long. -/
def drawNestedActivation : Draw Unit := do
  let external ← Draw.addParticipant .placeholder
  let thread ← Draw.addParticipant (.object "t:thread")
  let toolkit ← Draw.addParticipant (.object ":Toolkit")
  let peer ← Draw.addParticipant .placeholder
  setNumber .objectSpacing 1.75
  Draw.pushMethod external thread "a1: run(3)" .sync
  Draw.pushMethod thread toolkit "run()" .sync
  Draw.callMethod toolkit toolkit { request := "callbackLoop()" }
  Draw.createInstance toolkit peer "p:Peer" (some .sync)
  Draw.callMethod toolkit peer
    { request := "handleExpose()", response := some "", responseMode := .sync }
  Draw.destroyInstance toolkit peer (some .sync)
  Draw.deactivate thread
  Draw.deactivate toolkit
  Draw.step 2

/-- A checker reports to the coordinator and is gone. -/
def reportCheck (checker coordinator : Handle) : Draw Unit := do
  Draw.message checker coordinator "ok"
  Draw.callMethod coordinator coordinator { request := "all done?" }
  Draw.deactivate coordinator
  Draw.delete checker

/-- A transaction coordinator that waits for two checkers at once. -/
def drawConcurrentActivations : Draw Unit := do
  let origin ← Draw.addParticipant .placeholder
  let transaction ← Draw.addParticipant .placeholder
  let coordinator ← Draw.addParticipant .placeholder
  let check1 ← Draw.addParticipant .placeholder
  let check2 ← Draw.addParticipant .placeholder
  setNumber .boxWidth 1.3
  Draw.createInstance origin transaction "a:Transaction" (some .async)
  Draw.activate transaction
  Draw.createInstance transaction coordinator "a:TransCoord" (some .async)
  Draw.deactivate transaction
  Draw.activate coordinator
  Draw.createInstance coordinator check1 "a1:TransCheck" (some .async)
  Draw.activate check1
  Draw.createInstance coordinator check2 "a2:TransCheck" (some .async)
  Draw.activate check2
  reportCheck check1 coordinator
  Draw.step 1
  Draw.activate coordinator
  reportCheck check2 coordinator
  Draw.message coordinator transaction "beValid"
  Draw.activate transaction
  Draw.step 1

/-- Draws an example. -/
def draw : Demo → Draw Unit
  | authentication => drawAuthentication
  | comment => drawComment
  | createDestroy => drawCreateDestroy
  | externalActor => drawExternalActor
  | lifelineConstraints => drawLifelineConstraints
  | nestedActivation => drawNestedActivation
  | concurrentActivations => drawConcurrentActivations

/-- The diagram of an example. -/
def build (demo : Demo) : Except DrawError Diagram :=
  match (ExceptT.run demo.draw).run .empty with
  | (.ok _, d) => .ok d
  | (.error e, _) => .error e

end Demo

end Lifelines
