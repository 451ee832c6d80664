import Lifelines.Proofs.Reachable

/-!
# Calls drawn in parts

A call with a reply is one operation, but it may as well be drawn in parts: the
request is pushed, some steps go by, and the reply is popped. The parts look up
both ends of the call once more and switch the style on their own. That nothing
comes of it is because a push leaves both ends alive, gives the target a bar to
end, and leaves its style in force.

* `Diagram.writeAll_push`: the diagram after a push and some steps;
* `Op.run_callMethod_eq`: a call is drawn as its parts are drawn one after the
  other, and it is refused as its push is.
-/

namespace Lifelines

namespace Diagram

variable {d : Diagram}

/-- After a push the target has a bar more and the style is in force; time goes by
    without a change. -/
theorem writeAll_push (mode : SyncMode) (a n text : String) (steps : Nat) :
    ∃ log, (d.writeAll (.step :: SyncMode.switch d.mode mode ++
        [.message a n text, .activate n])).writeAll (List.replicate steps .step) =
      { d.change n fun l => { l with depth := l.depth + 1 } with
        mode := some mode, log := log } := by
  have hrequest := writeAll_request (d := d) mode a n text
  rw [List.append_cons, writeAll_append, hrequest, writeAll_cons, writeAll_nil,
    writeAll_replicate_step]
  exact ⟨_, rfl⟩

end Diagram

namespace Op

variable {d : Diagram}

/-- What a call with a reply writes after its push and the steps is what a pop writes. -/
theorem run_popMethod_of_push {sender target : Handle} {s t : Lifeline} {d' : Diagram}
    {log : List Statement} {mode : SyncMode} (h : d.liveEnds sender target = .ok (s, t))
    (hd' : d'.Named)
    (hpushed : d' = { d.change t.name fun l => { l with depth := l.depth + 1 } with
      mode := some mode, log := log }) (response : String) (mode' : SyncMode) :
    (popMethod sender target response mode').run d' =
      (.ok .done, d'.writeAll (SyncMode.switch (some mode) mode' ++
        .returnMessage t.name s.name response :: [.deactivate t.name] ++ [.step])) := by
  refine run_of_script hd'.distinct rfl ?_
  -- both ends are found again, the target with a bar to end
  obtain ⟨s', hends, hname⟩ := Diagram.liveEnds_change (f := fun l =>
    { l with depth := l.depth + 1 }) h (fun _ => rfl) fun _ => rfl
  rw [← Diagram.liveEnds_congr (show d'.lifelines = _ by rw [hpushed])] at hends
  have hmode : d'.mode = some mode := by rw [hpushed]
  rw [script, hends, hmode, ← hname]
  rfl

/-- A call with a reply is drawn as a push, some steps and a pop are drawn one after
    the other, and it is refused as the push is. -/
theorem run_callMethod_eq (h : d.Reachable) (sender target : Handle) (request response : String)
    (steps : Nat) (mode mode' : SyncMode) :
    (callMethod sender target ⟨request, some response, steps, mode, mode'⟩).run d =
      match (pushMethod sender target request mode).run d with
      | (.ok _, d') => (popMethod sender target response mode').run ((Op.step steps).run d').2
      | (.error e, d') => (.error e, d') := by
  have hd := h.named
  cases hends : d.liveEnds sender target with
  | error e =>
    have hpush : (pushMethod sender target request mode).run d = (.error e, d) :=
      run_of_script_error hd.distinct (by rw [script, hends]; rfl)
    rw [hpush]
    exact run_of_script_error hd.distinct (by rw [script, hends]; rfl)
  | ok ends =>
    obtain ⟨s, t⟩ := ends
    have hpush : (pushMethod sender target request mode).run d = (.ok .done, _) :=
      run_of_script hd.distinct rfl (by rw [script, hends]; rfl)
    have hd' := hd.of_run hpush
    have hstep : (Op.step steps).run _ = (.ok .done, _) := run_of_script hd'.distinct rfl rfl
    -- the pop starts from what the push leaves: one bar more, and its style in force
    obtain ⟨log, hpushed⟩ := Diagram.writeAll_push (d := d) mode s.name t.name request steps
    have hpop := run_popMethod_of_push hends (hd'.of_run hstep) hpushed response mode'
    have hcall : (callMethod sender target ⟨request, some response, steps, mode, mode'⟩).run d =
        (.ok .done, _) := run_of_script hd.distinct rfl (by rw [script, hends]; rfl)
    rw [hcall, hpush]
    dsimp only
    rw [hstep, hpop, ← Diagram.writeAll_append, ← Diagram.writeAll_append]
    simp

/-- An object with a bar, in the style of replies. -/
def selfCall : List Op :=
  [addParticipant (.object "a"), setMode .async, activate ⟨0⟩]

/-- The object calls itself, in a style that is not in force. -/
theorem run_callMethod_to_itself :
    let d := (runAll selfCall .empty).2
    let d' := ((pushMethod ⟨0⟩ ⟨0⟩ "r" .sync).run d).2
    d.Reachable ∧ (callMethod ⟨0⟩ ⟨0⟩ ⟨"r", some "x", 2, .sync, .async⟩).run d =
      (popMethod ⟨0⟩ ⟨0⟩ "x" .async).run ((Op.step 2).run d').2 :=
  ⟨⟨_, rfl⟩, run_callMethod_eq ⟨_, rfl⟩ ⟨0⟩ ⟨0⟩ "r" "x" 2 .sync .async⟩

end Op

end Lifelines
