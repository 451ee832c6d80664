import Lifelines.Proofs.Call
import Lifelines.Proofs.Style

/-!
# What a call leaves behind

A call between two participants that are alive always goes through, be it a call of a
participant to itself, on a participant that has bars already, or in any style. All that
is left of it is what it has drawn and the style of its last message: the bar that it
starts on the target is the one that it ends, so that nobody is more active than before.

* `Call.statements`: what a call draws, statement by statement;
* `Call.lastMode`: the style of its last message;
* `Diagram.writeAll_exchange`: a request with its reply changes nothing but the style;
* `Op.run_callMethod`: the diagram after a call.
-/

namespace Lifelines

namespace Call

/-- What a call draws between two names, a style perhaps being in force before it. -/
def statements (call : Call) (before : Option SyncMode) (sender target : String) :
    List Statement :=
  let toRequest := if before = some call.requestMode then [] else [call.requestMode.statement]
  let toReply :=
    if call.responseMode = call.requestMode then [] else [call.responseMode.statement]
  let reply :=
    match call.response with
    | some response =>
      .activate target :: List.replicate call.steps .step ++ toReply ++
        [.returnMessage target sender response, .deactivate target]
    | none => []
  .step :: toRequest ++ [.message sender target call.request] ++ reply ++ [.step]

/-- The style of the last message of a call. -/
def lastMode (call : Call) : SyncMode :=
  if call.response.isSome then call.responseMode else call.requestMode

end Call

namespace Diagram

variable {d : Diagram} {n : String}

/-- What is kept about a participant is as it was when a change of it is undone. -/
theorem change_change {f g : Lifeline → Lifeline} (hf : ∀ l, (f l).name = l.name)
    (hg : ∀ l, g (f l) = l) : (d.change n f).change n g = d := by
  have hl : ((fun l : Lifeline => if l.name = n then g l else l) ∘
      fun l => if l.name = n then f l else l) = id := by
    funext l
    by_cases hn : l.name = n <;> simp [hn, hf, hg]
  rw [change, change, List.map_map, hl, List.map_id]

/-- The reply to a call ends a bar of the participant that gives it. -/
theorem writeAll_reply (mode : SyncMode) (n a text : String) :
    ∃ log, d.writeAll (SyncMode.switch d.mode mode ++ [.returnMessage n a text, .deactivate n]) =
      { d.change n fun l => { l with depth := l.depth - 1 } with
        mode := some mode, log := log } := by
  rw [writeAll_append, writeAll_switch, writeAll_cons, write_of_effect_none rfl, writeAll_cons,
    writeAll_nil]
  exact ⟨_, rfl⟩

/-- A request with its reply changes nothing but the style: the bar that starts after the
    one ends after the other, however many there are. -/
theorem writeAll_exchange (mode mode' : SyncMode) (a n request response : String) (steps : Nat) :
    ∃ log, ((d.writeAll (.step :: SyncMode.switch d.mode mode ++
        [.message a n request, .activate n])).writeAll (List.replicate steps .step)).writeAll
        (SyncMode.switch (some mode) mode' ++ [.returnMessage n a response, .deactivate n]) =
      { d with mode := some mode', log := log } := by
  obtain ⟨log, hpush⟩ := writeAll_push (d := d) mode a n request steps
  obtain ⟨log', hreply⟩ := writeAll_reply (d := { d.change n fun l =>
    { l with depth := l.depth + 1 } with mode := some mode, log := log }) mode' n a response
  have hbar : (d.change n fun l => { l with depth := l.depth + 1 }).change n
      (fun l => { l with depth := l.depth - 1 }) = d := change_change (fun _ => rfl) fun _ => rfl
  refine ⟨log', ?_⟩
  rw [hpush]
  exact hreply.trans (congrArg (fun d : Diagram => { d with mode := some mode', log := log' }) hbar)

/-- A call changes nothing but the style. -/
theorem writeAll_call (call : Call) (a n : String) :
    ∃ log, d.writeAll (call.statements d.mode a n) =
      { d with mode := some call.lastMode, log := log } := by
  cases hresponse : call.response with
  -- no bar starts unless there is a reply
  | none =>
    have hrequest := writeAll_request (d := d) call.requestMode a n call.request
    have hsplit : call.statements d.mode a n = .step :: SyncMode.switch d.mode call.requestMode ++
        [.message a n call.request] ++ [.step] := by
      simp [Call.statements, SyncMode.switch, hresponse]
    rw [hsplit, writeAll_append, hrequest, writeAll_cons, write_of_effect_none rfl, writeAll_nil,
      Call.lastMode, hresponse]
    exact ⟨_, rfl⟩
  | some response =>
    obtain ⟨log, hexchange⟩ := writeAll_exchange (d := d) call.requestMode call.responseMode a n
      call.request response call.steps
    have hsplit : call.statements d.mode a n = .step :: SyncMode.switch d.mode call.requestMode ++
        [.message a n call.request, .activate n] ++ (List.replicate call.steps .step ++
        (SyncMode.switch (some call.requestMode) call.responseMode ++
          [.returnMessage n a response, .deactivate n])) ++ [.step] := by
      simp [Call.statements, SyncMode.switch, hresponse, eq_comm]
    rw [← writeAll_append, ← writeAll_append] at hexchange
    rw [hsplit, writeAll_append, hexchange, writeAll_cons, write_of_effect_none rfl, writeAll_nil,
      Call.lastMode, hresponse]
    exact ⟨_, rfl⟩

end Diagram

namespace Op

variable {d : Diagram} {sender target : Handle}

/-- A call between participants that are alive goes through, and it leaves nothing behind
    but its statements and the style of its last message. -/
theorem run_callMethod (h : d.Reachable) (hs : d.isLive sender = true)
    (ht : d.isLive target = true) (call : Call) :
    (callMethod sender target call).run d = (.ok .done,
      { d with
        mode := some call.lastMode
        log := d.log ++ call.statements d.mode (d.nameOf sender) (d.nameOf target) }) := by
  obtain ⟨s, hs⟩ := Diagram.isLive_iff.1 hs
  obtain ⟨t, ht⟩ := Diagram.isLive_iff.1 ht
  have hends := Diagram.liveEnds_eq_ok_iff.2 ⟨hs, ht⟩
  rw [Diagram.nameOf_eq hs, Diagram.nameOf_eq ht]
  have hscript : (callMethod sender target call).script d =
      .ok (.done, call.statements d.mode s.name t.name) := by
    rw [script, hends, Call.statements]
    cases call.response with
    | none => simp [SyncMode.switch, bind, Except.bind]
    | some response => simp [SyncMode.switch, eq_comm, bind, Except.bind]
  obtain ⟨log, hwritten⟩ := Diagram.writeAll_call (d := d) call s.name t.name
  have hlog := Diagram.log_writeAll d (call.statements d.mode s.name t.name)
  rw [hwritten] at hlog
  rw [run_of_script h.named.distinct rfl hscript, hwritten, ← hlog]

/-- An object that has a bar calls itself in another style than the one in force: it sets
    a style twice, and it is left with the bar that it had. -/
theorem selfCall_leaves_one_bar :
    let d := (runAll selfCall .empty).2
    let call : Call := ⟨"r", some "x", 2, .sync, .async⟩
    let o := NameKind.participant.name 0
    d.Reachable ∧ d.isLive ⟨0⟩ = true ∧ (callMethod ⟨0⟩ ⟨0⟩ call).run d = (.ok .done,
      { d with
        mode := some .async
        log := d.log ++ [.step, SyncMode.sync.statement, .message o o "r", .activate o, .step,
          .step, SyncMode.async.statement, .returnMessage o o "x", .deactivate o, .step] }) :=
  ⟨⟨_, rfl⟩, rfl, run_callMethod ⟨_, rfl⟩ rfl rfl _⟩

end Op

end Lifelines
