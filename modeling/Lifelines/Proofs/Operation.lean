import Lifelines.Proofs.Writing

/-!
# Operations do what their scripts say

A script is read off the diagram that an operation starts from. The operation
itself looks participants up again and again while it draws; that it finds them
as they were is why a refusal always comes first, before anything has changed.

* `Draw.Follows`: a computation does what a script says;
* `Op.run_eq`: every operation does what its script says;
* `Op.admits_script`: what a script writes is admissible.
-/

namespace Lifelines

namespace Draw

variable {α : Type} {d : Diagram} {p sender target : Handle}

/-- The computation does on `d` what a script says, and leaves `d` as it is if the
    script refuses. -/
def Follows (m : Draw α) (d : Diagram) : Except DrawError (α × List Statement) → Prop
  | .ok (a, ss) => Writes m d a ss
  | .error e => exec m d = (.error e, d)

/-- A frame that is not open is not closed, and nothing is drawn. -/
theorem exec_endFrame_of_not_open {l : Lifeline} (h : d.liveLifeline p = .ok l) {name : String}
    (hn : d.openFrames.contains name = false) (steps : Nat) :
    exec (endFrame p name steps) d = (.error (.unmatchedFrame name), d) := by
  rw [endFrame, exec_live_bind h, exec_bind_of_ok (exec_get d), hn]
  rfl

/-- No line is drawn to a comment that is not known. -/
theorem exec_connectToComment_of_not_known {l : Lifeline} (h : d.liveLifeline p = .ok l)
    {name : String} (hn : d.comments.contains name = false) :
    exec (connectToComment p name) d = (.error (.unknownComment name), d) := by
  rw [connectToComment, exec_live_bind h, exec_bind_of_ok (exec_get d), hn]
  rfl

/-- Who has been created before is not created again. -/
theorem exec_createInstance_of_created {s t : Lifeline}
    (h : d.liveEnds sender target = .ok (s, t)) (hc : t.created = true) (label : String)
    (style : Option SyncMode) : exec (createInstance sender target label style) d =
      (.error (.alreadyCreated t.name (t.label.getD "")), d) := by
  rw [createInstance, exec_endpoints_bind h,
    exec_live_bind (Diagram.liveEnds_eq_ok_iff.1 h).2, hc]
  rfl

/-- An operation on one participant, which is refused unless the participant is alive. -/
theorem follows_of_live {m : Draw α} {script : Lifeline → Except DrawError (α × List Statement)}
    (hr : ∀ e, exec (live p) d = (.error e, d) → exec m d = (.error e, d))
    (hw : ∀ l, d.liveLifeline p = .ok l → Follows m d (script l)) :
    Follows m d (d.liveLifeline p >>= script) := by
  cases hp : d.liveLifeline p with
  | error e => exact hr e (by rw [exec_live, hp])
  | ok l => exact hw l hp

/-- An operation on a sender and a target, which is refused unless both are alive. -/
theorem follows_of_endpoints {m : Draw α}
    {script : Lifeline × Lifeline → Except DrawError (α × List Statement)}
    (hr : ∀ e, exec (endpoints sender target) d = (.error e, d) → exec m d = (.error e, d))
    (hw : ∀ s t, d.liveEnds sender target = .ok (s, t) → Follows m d (script (s, t))) :
    Follows m d (d.liveEnds sender target >>= script) := by
  cases hp : d.liveEnds sender target with
  | error e => exact hr e (by rw [exec_endpoints, hp]; rfl)
  | ok ends => exact hw ends.1 ends.2 hp

theorem Writes.silent {m : Draw Unit} {ss : List Statement} (h : Writes m d () ss) :
    Writes (Op.silent m) d .done ss :=
  (h.bind (writes_pure Reply.done)).cast (List.append_nil ss)

/-- Changing the answer does not change what is written. -/
theorem Writes.map {β : Type} {m : Draw α} {a : α} {ss : List Statement} (h : Writes m d a ss)
    (f : α → β) : Writes (f <$> m) d (f a) ss := by
  rw [map_eq_pure_bind]
  exact (h.bind (writes_pure (f a))).cast (List.append_nil ss)

/-- There is no answer to change if there is an error. -/
theorem exec_map_of_error {β : Type} {m : Draw α} {e : DrawError} (h : exec m d = (.error e, d))
    (f : α → β) : exec (f <$> m) d = (.error e, d) := by
  rw [map_eq_pure_bind]
  exact exec_bind_of_error h

end Draw

namespace Op

open Draw

variable {d : Diagram}

/-- Every operation does what its script says. Only a new value of a layout
    parameter is not written. -/
theorem perform_follows (hd : d.participantNames.Nodup) (op : Op)
    (hop : ∀ name value, op ≠ setParam name value) : Follows op.perform d (op.script d) := by
  -- an operation looks up its ends first, as its script does, and past that both write the same
  cases op with
  | addParticipant p => exact (writes_addParticipant p).map Reply.handle
  | setMode mode => exact (writes_setMode mode).silent
  | step n => exact (writes_step n).silent
  | beginFrame left label steps =>
    exact follows_of_live (fun _ he => exec_map_of_error (exec_bind_of_error he) _)
      fun l hl => (writes_beginFrame hl label steps).map Reply.name
  | endFrame right name steps =>
    refine follows_of_live (fun _ he => exec_bind_of_error (exec_bind_of_error he)) fun l hl => ?_
    cases hn : d.openFrames.contains name with
    | true => exact (writes_endFrame hl hn steps).silent
    | false => exact exec_bind_of_error (exec_endFrame_of_not_open hl hn steps)
  | comment p c =>
    exact follows_of_live (fun _ he => exec_map_of_error (exec_bind_of_error he) _)
      fun l hl => (writes_comment hl c).map Reply.name
  | connectToComment p name =>
    refine follows_of_live (fun _ he => exec_bind_of_error (exec_bind_of_error he)) fun l hl => ?_
    cases hn : d.comments.contains name with
    | true => exact (writes_connectToComment hl hn).silent
    | false => exact exec_bind_of_error (exec_connectToComment_of_not_known hl hn)
  | objectConstraint text =>
    exact (writes_emit (Statement.effect_objectConstraint text) (.objectConstraint text)).silent
  | lineConstraint p text below =>
    exact follows_of_live (fun _ he => exec_bind_of_error (exec_bind_of_error he))
      fun l hl => (writes_lineConstraint hl text below).silent
  | setParam name value => exact absurd rfl (hop name value)
  | activate p =>
    exact follows_of_live (fun _ he => exec_bind_of_error (exec_bind_of_error he))
      fun l hl => (writes_activate hd hl).silent
  | deactivate p =>
    exact follows_of_live (fun _ he => exec_bind_of_error (exec_bind_of_error he))
      fun l hl => (writes_deactivate hd hl).silent
  | delete p =>
    exact follows_of_live (fun _ he => exec_bind_of_error (exec_bind_of_error he))
      fun l hl => (writes_delete hd hl).silent
  | message sender target text =>
    exact follows_of_endpoints (fun _ he => exec_bind_of_error (exec_bind_of_error he))
      fun s t h => (writes_message h text).silent
  | returnMessage sender target text =>
    exact follows_of_endpoints (fun _ he => exec_bind_of_error (exec_bind_of_error he))
      fun s t h => (writes_returnMessage h text).silent
  | createInstance sender target label style =>
    refine follows_of_endpoints (fun _ he => exec_bind_of_error (exec_bind_of_error he))
      fun s t h => ?_
    dsimp only
    cases hc : t.created with
    | false => exact (writes_createInstance hd h hc label style).silent
    | true => exact exec_bind_of_error (exec_createInstance_of_created h hc label style)
  | destroyInstance sender target style =>
    exact follows_of_endpoints (fun _ he => exec_bind_of_error (exec_bind_of_error he))
      fun s t h => (writes_destroyInstance hd h style).silent
  | pushMethod sender target request mode =>
    exact follows_of_endpoints (fun _ he => exec_bind_of_error (exec_bind_of_error he))
      fun s t h => (writes_pushMethod hd h request mode).silent
  | popMethod sender target response mode =>
    exact follows_of_endpoints (fun _ he => exec_bind_of_error (exec_bind_of_error he))
      fun s t h => (writes_popMethod hd h response mode).silent
  | callMethod sender target call =>
    exact follows_of_endpoints (fun _ he => exec_bind_of_error (exec_bind_of_error he))
      fun s t h => (writes_callMethod hd h call).silent

/-- A parameter is set as in the set of parameters, and nothing is drawn. -/
theorem run_setParam (name : String) (value : ParamValue) (d : Diagram) :
    (setParam name value).run d =
      match d.params.set name value with
      | .ok params => (.ok .done, { d with params := params })
      | .error e => (.error (.param e), d) := by
  change exec (Draw.setParam name value >>= _) d = _
  rw [Draw.setParam, exec_bind, exec_bind_of_ok (exec_get d)]
  cases d.params.set name value <;> rfl

/-- Only one operation changes the parameters. -/
theorem newParams_of_ne {op : Op} (hop : ∀ name value, op ≠ setParam name value)
    (params : ParamSet) : op.newParams params = params := by
  cases op with
  | setParam name value => exact absurd rfl (hop name value)
  | _ => rfl

/-- What an operation does is what its script says: it is refused and the diagram
    stays as it is, or it answers, writes its statements and sets its parameter. -/
theorem run_eq (hd : d.participantNames.Nodup) (op : Op) : op.run d =
    match op.script d with
    | .ok (reply, ss) => (.ok reply, { d.writeAll ss with params := op.newParams d.params })
    | .error e => (.error e, d) := by
  by_cases hop : ∀ name value, op ≠ setParam name value
  · have h := perform_follows hd op hop
    rw [newParams_of_ne hop]
    cases hs : op.script d with
    | error e => exact show exec op.perform d = _ by rwa [hs] at h
    | ok answer =>
      rw [hs] at h
      rw [← Diagram.params_writeAll d answer.2]
      exact h.exec_eq
  · -- a parameter is set without a statement
    obtain ⟨name, value, rfl⟩ : ∃ name value, op = setParam name value := by simpa using hop
    rw [run_setParam]
    simp only [script, newParams]
    cases d.params.set name value <;> rfl

section

variable {op : Op}

/-- An operation that sets no parameter writes the statements of its script. -/
theorem run_of_script (hd : d.participantNames.Nodup) (hop : op.newParams d.params = d.params)
    {reply : Reply} {ss : List Statement} (h : op.script d = .ok (reply, ss)) :
    op.run d = (.ok reply, d.writeAll ss) := by
  rw [run_eq hd, h, hop, ← Diagram.params_writeAll d ss]

/-- What an operation has done was in its script. -/
theorem script_of_run (hd : d.participantNames.Nodup) {reply : Reply} {d' : Diagram}
    (h : op.run d = (.ok reply, d')) : ∃ ss, op.script d = .ok (reply, ss) ∧
      d' = { d.writeAll ss with params := op.newParams d.params } := by
  rw [run_eq hd] at h
  cases hs : op.script d with
  | error e => simp [hs] at h
  | ok answer =>
    rw [hs] at h
    obtain ⟨hr, rfl⟩ := Prod.mk.inj h
    cases hr
    exact ⟨_, rfl, rfl⟩

theorem run_of_script_error (hd : d.participantNames.Nodup) {e : DrawError}
    (h : op.script d = .error e) : op.run d = (.error e, d) := by
  rw [run_eq hd, h]

end

/-- The statements that an operation writes are admissible, each when its turn comes. -/
theorem admits_script (hd : d.participantNames.Nodup) {op : Op} {reply : Reply}
    {ss : List Statement} (h : op.script d = .ok (reply, ss)) : d.Admits ss := by
  by_cases hop : ∀ name value, op ≠ setParam name value
  · have hf := perform_follows hd op hop
    rw [h] at hf
    exact hf.admits
  · obtain ⟨name, value, rfl⟩ : ∃ name value, op = setParam name value := by simpa using hop
    simp only [script] at h
    split at h <;> cases h
    trivial

end Op

end Lifelines
