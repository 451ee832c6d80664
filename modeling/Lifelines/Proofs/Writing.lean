import Lifelines.Proofs.Admissible
import Lifelines.Proofs.Script

/-!
# Computations that write

Most drawing operations are put together from computations each of which writes
some statements with their effects. That a computation does so is stated from a
given diagram, together with the admissibility of what it writes, so that a
compound operation is described by describing its parts one after the other.

* `Draw.exec`: what a computation answers on a diagram, and the diagram after it;
* `Draw.Writes`: a computation answers and writes statements, each where it is
  admissible; such computations compose (`Draw.Writes.bind`);
* one lemma for each operation that is not refused (`Draw.writes_message`, ...).
-/

namespace Lifelines

/-! ### Computations that write -/

namespace Draw

variable {α β : Type} {d : Diagram}

/-- What a computation answers on a diagram, and the diagram after it. -/
def exec (m : Draw α) (d : Diagram) : Except DrawError α × Diagram :=
  (ExceptT.run m).run d

/-- Two programs in a row: the second runs in the state the first leaves, unless the first is
    refused. -/
theorem exec_bind (m : Draw α) (k : α → Draw β) (d : Diagram) :
    exec (m >>= k) d =
      match exec m d with
      | (.ok a, d') => exec (k a) d'
      | (.error e, d') => (.error e, d') := by
  change (ExceptT.bind m k) d = _
  simp only [ExceptT.bind, ExceptT.mk, bind, StateT.bind, exec, ExceptT.run, StateT.run]
  rcases m d with ⟨_ | a, d'⟩ <;> rfl

theorem exec_bind_of_ok {m : Draw α} {k : α → Draw β} {d' : Diagram} {a : α}
    (h : exec m d = (.ok a, d')) : exec (m >>= k) d = exec (k a) d' := by
  rw [exec_bind, h]

theorem exec_bind_of_error {m : Draw α} {k : α → Draw β} {d' : Diagram} {e : DrawError}
    (h : exec m d = (.error e, d')) : exec (m >>= k) d = (.error e, d') := by
  rw [exec_bind, h]

theorem exec_get (d : Diagram) : exec get d = (.ok d, d) := rfl

theorem exec_emit (s : Statement) (d : Diagram) :
    exec (emit s) d = (.ok (), { d with log := d.log ++ [s] }) := rfl

theorem exec_live (p : Handle) (d : Diagram) : exec (live p) d = (d.liveLifeline p, d) := by
  rw [live, exec_bind_of_ok (exec_get d)]
  cases d.liveLifeline p <;> rfl

theorem exec_live_bind {p : Handle} {l : Lifeline} (h : d.liveLifeline p = .ok l)
    (k : Lifeline → Draw β) : exec (live p >>= k) d = exec (k l) d :=
  exec_bind_of_ok (by rw [exec_live, h])

/-- Asking for two live ends changes nothing and gives their names, or the refusal of the first
    that is not live. -/
theorem exec_endpoints (sender target : Handle) (d : Diagram) :
    exec (endpoints sender target) d =
      ((d.liveEnds sender target).map fun (s, t) => (s.name, t.name), d) := by
  rw [endpoints, exec_bind, exec_live, Diagram.liveEnds]
  cases d.liveLifeline sender with
  | error e => rfl
  | ok s =>
    simp only [exec_bind, exec_live]
    cases d.liveLifeline target <;> rfl

/-- Past the check for two live ends, the program goes on with their names. -/
theorem exec_endpoints_bind {sender target : Handle} {s t : Lifeline}
    (h : d.liveEnds sender target = .ok (s, t)) (k : String × String → Draw β) :
    exec (endpoints sender target >>= k) d = exec (k (s.name, t.name)) d :=
  exec_bind_of_ok (by rw [exec_endpoints, h]; rfl)

theorem exec_update (p : Handle) (f : Lifeline → Lifeline) (d : Diagram) : exec (update p f) d =
    (.ok (), { d with lifelines := d.lifelines.modify p.index f }) := rfl

/-- Setting the style writes the switch to it, which is nothing when the style is in force
    already. -/
theorem exec_setMode (mode : SyncMode) (d : Diagram) :
    exec (setMode mode) d = (.ok (), d.writeAll (SyncMode.switch d.mode mode)) := by
  rw [setMode, exec_bind_of_ok (exec_get d), SyncMode.switch]
  split
  · rfl
  · rw [Diagram.writeAll_cons, Diagram.write, Statement.effect_statement]
    rfl

/-- The computation answers `a` on `d` and writes `ss`, each statement where it is
    admissible. -/
structure Writes (m : Draw α) (d : Diagram) (a : α) (ss : List Statement) : Prop where
  exec_eq : exec m d = (.ok a, d.writeAll ss)
  admits : d.Admits ss

/-- Programs in a row write their statements in a row. -/
theorem Writes.bind {m : Draw α} {k : α → Draw β} {a : α} {b : β} {ss ts : List Statement}
    (hm : Writes m d a ss) (hk : Writes (k a) (d.writeAll ss) b ts) :
    Writes (m >>= k) d b (ss ++ ts) where
  exec_eq := by rw [exec_bind_of_ok hm.exec_eq, hk.exec_eq, Diagram.writeAll_append]
  admits := Diagram.admits_append.2 ⟨hm.admits, hk.admits⟩

theorem Writes.cast {m : Draw α} {a : α} {ss ts : List Statement} (h : Writes m d a ss)
    (hs : ss = ts) : Writes m d a ts :=
  hs ▸ h

end Draw

/-! ### Lifelines between two statements -/

namespace Diagram

variable {d d' : Diagram} {p sender target : Handle} {l s t : Lifeline} {f : Lifeline → Lifeline}

/-- A participant is live when its handle is in range and its lifeline has not ended. -/
theorem liveLifeline_eq_ok_iff :
    d.liveLifeline p = .ok l ↔ d.lifelines[p.index]? = some l ∧ l.alive = true := by
  simp only [liveLifeline, lifeline]
  cases d.lifelines[p.index]? with
  | none => simp [bind, Except.bind]
  | some l' =>
    simp only [bind, Except.bind, Option.some.injEq]
    cases ha : l'.alive
    · simp only [Bool.false_eq_true, ↓reduceIte, reduceCtorEq, false_iff, not_and]
      rintro rfl
      simp [ha]
    · simp only [↓reduceIte, Except.ok.injEq]
      exact ⟨fun h => ⟨h, h ▸ ha⟩, And.left⟩

theorem alive_of_liveLifeline (h : d.liveLifeline p = .ok l) : d.Alive l :=
  have ⟨hl, ha⟩ := liveLifeline_eq_ok_iff.1 h
  ⟨List.mem_of_getElem? hl, ha⟩

theorem isLive_iff : d.isLive p = true ↔ ∃ l, d.liveLifeline p = .ok l := by
  simp only [liveLifeline_eq_ok_iff, isLive]
  cases d.lifelines[p.index]? <;> simp

/-- Two ends are live exactly if each of them is. -/
theorem liveEnds_eq_ok_iff : d.liveEnds sender target = .ok (s, t) ↔
    d.liveLifeline sender = .ok s ∧ d.liveLifeline target = .ok t := by
  rw [liveEnds]
  cases d.liveLifeline sender with
  | error => simp [bind, Except.bind]
  | ok s' =>
    cases d.liveLifeline target <;> simp [bind, Except.bind, pure, Except.pure]

theorem liveLifeline_congr (h : d'.lifelines = d.lifelines) :
    d'.liveLifeline p = d.liveLifeline p := by
  simp only [liveLifeline, lifeline, h]

theorem liveEnds_congr (h : d'.lifelines = d.lifelines) :
    d'.liveEnds sender target = d.liveEnds sender target := by
  simp only [liveEnds, liveLifeline_congr h]

/-- A change that leaves the participants alive is seen through their handles. -/
theorem liveLifeline_change {n : String} (h : d.liveLifeline p = .ok l)
    (hf : ∀ l, (f l).alive = l.alive) :
    (d.change n f).liveLifeline p = .ok (if l.name = n then f l else l) := by
  obtain ⟨hl, ha⟩ := liveLifeline_eq_ok_iff.1 h
  refine liveLifeline_eq_ok_iff.2 ⟨by simp [change, hl], ?_⟩
  split
  · rw [hf, ha]
  · exact ha

/-- Both ends of a call are found again after such a change of the target; a sender
    that calls itself is changed as well. -/
theorem liveEnds_change (h : d.liveEnds sender target = .ok (s, t))
    (ha : ∀ l, (f l).alive = l.alive) (hn : ∀ l, (f l).name = l.name) :
    ∃ s', (d.change t.name f).liveEnds sender target = .ok (s', f t) ∧ s'.name = s.name := by
  obtain ⟨hs, ht⟩ := liveEnds_eq_ok_iff.1 h
  have ht' := liveLifeline_change (n := t.name) ht ha
  rw [if_pos rfl] at ht'
  refine ⟨_, liveEnds_eq_ok_iff.2 ⟨liveLifeline_change hs ha, ht'⟩, ?_⟩
  split
  · exact hn s
  · rfl

/-- The participant behind a handle is the only one of its name. -/
theorem modify_eq_change (hd : d.participantNames.Nodup) (h : d.liveLifeline p = .ok l) :
    { d with lifelines := d.lifelines.modify p.index f } = d.change l.name f := by
  have hl := (liveLifeline_eq_ok_iff.1 h).1
  rw [change]
  congr 1
  -- one function goes by position, the other by name
  apply List.ext_getElem?
  intro i
  rw [List.getElem?_modify, List.getElem?_map]
  cases hi : d.lifelines[i]? with
  | none => rfl
  | some l' =>
    by_cases hp : p.index = i
    · subst hp
      obtain rfl : l = l' := by simpa [hl] using hi
      simp
    · -- at any other index there is a participant of another name
      have hn : l'.name ≠ l.name := by
        intro hn
        apply hp
        have hlt := (List.getElem?_eq_some_iff.1 hl).1
        refine (List.getElem?_inj (by simpa [participantNames] using hlt) hd).1 ?_
        simp [participantNames, hl, hi, hn]
      simp [hp, hn]

/-! ### Statements that leave the lifelines alone -/

/-- After a switch the style is in force. -/
theorem writeAll_switch (mode : SyncMode) : d.writeAll (SyncMode.switch d.mode mode) =
    { d with mode := some mode, log := d.log ++ SyncMode.switch d.mode mode } := by
  rw [SyncMode.switch]
  split
  · next h => simp [← h]
  · rw [writeAll_cons, write, Statement.effect_statement, apply, writeAll_nil]

/-- The part of a call up to its message changes nothing but the style. -/
theorem writeAll_request (mode : SyncMode) (a b text : String) :
    d.writeAll (.step :: SyncMode.switch d.mode mode ++ [.message a b text]) = { d with
      mode := some mode
      log := d.log ++ .step :: SyncMode.switch d.mode mode ++ [.message a b text] } := by
  have h : d.writeAll (.step :: SyncMode.switch d.mode mode) = { d with
      mode := some mode
      log := d.log ++ .step :: SyncMode.switch d.mode mode } := by
    rw [writeAll_cons, write_of_effect_none Statement.effect_step]
    exact (writeAll_switch mode).trans (by simp)
  rw [writeAll_append, h, writeAll_cons, write_of_effect_none (Statement.effect_message _ _ _)]
  simp

/-- A switch of style touches no lifeline. -/
theorem lifelines_writeAll_switch (before : Option SyncMode) (mode : SyncMode) :
    (d.writeAll (SyncMode.switch before mode)).lifelines = d.lifelines := by
  rw [SyncMode.switch]
  split
  · rfl
  · rw [writeAll_cons, write, Statement.effect_statement, apply, writeAll_nil]

/-- Steps may be written in any state. -/
theorem admits_step (n : Nat) : d.Admits (List.replicate n .step) := by
  induction n generalizing d with
  | zero => trivial
  | succ n ih => exact ⟨.step, ih⟩

/-- A switch to a style may be written in any state. -/
theorem admits_switch (mode : SyncMode) : d.Admits (SyncMode.switch d.mode mode) := by
  rw [SyncMode.switch]
  split
  · trivial
  · next h => exact ⟨.mode h, trivial⟩

end Diagram

/-! ### What each operation writes -/

namespace Draw

variable {α : Type} {d : Diagram} {p sender target : Handle} {l s t : Lifeline}

theorem writes_pure (a : α) : Writes (pure a) d a [] :=
  ⟨rfl, trivial⟩

theorem writes_live (h : d.liveLifeline p = .ok l) : Writes (live p) d l [] :=
  ⟨by rw [exec_live, h]; rfl, trivial⟩

/-- Looking up both ends of a message writes nothing. -/
theorem Writes.of_endpoints {k : String × String → Draw α} {a : α} {ss : List Statement}
    (h : d.liveEnds sender target = .ok (s, t)) (hk : Writes (k (s.name, t.name)) d a ss) :
    Writes (endpoints sender target >>= k) d a ss :=
  ⟨(exec_endpoints_bind h k).trans hk.exec_eq, hk.admits⟩

theorem writes_step (n : Nat) : Writes (step n) d () (List.replicate n .step) where
  exec_eq := by rw [Diagram.writeAll_replicate_step]; rfl
  admits := Diagram.admits_step n

/-- Setting a style writes a style statement if it is not in force yet. -/
theorem writes_setMode (mode : SyncMode) :
    Writes (setMode mode) d () (SyncMode.switch d.mode mode) where
  exec_eq := exec_setMode mode d
  admits := Diagram.admits_switch mode

/-- A statement that is only drawn is written by emitting it. -/
theorem writes_emit {x : Statement} (he : x.effect = .none) (h : d.Admissible x) :
    Writes (emit x) d () [x] where
  exec_eq := by rw [Diagram.writeAll_cons, Diagram.write_of_effect_none he]; rfl
  admits := ⟨h, trivial⟩

/-- A message between live ends writes one statement. -/
theorem writes_message (h : d.liveEnds sender target = .ok (s, t)) (text : String) :
    Writes (message sender target text) d () [.message s.name t.name text] := by
  obtain ⟨hs, ht⟩ := Diagram.liveEnds_eq_ok_iff.1 h
  exact Writes.of_endpoints h (writes_emit rfl
    (.message text (Diagram.alive_of_liveLifeline hs) (Diagram.alive_of_liveLifeline ht)))

/-- A return message between live ends writes one statement. -/
theorem writes_returnMessage (h : d.liveEnds sender target = .ok (s, t)) (text : String) :
    Writes (returnMessage sender target text) d () [.returnMessage s.name t.name text] := by
  obtain ⟨hs, ht⟩ := Diagram.liveEnds_eq_ok_iff.1 h
  exact Writes.of_endpoints h (writes_emit rfl
    (.returnMessage text (Diagram.alive_of_liveLifeline hs) (Diagram.alive_of_liveLifeline ht)))

/-- Activating a live participant writes one statement. -/
theorem writes_activate (hd : d.participantNames.Nodup) (h : d.liveLifeline p = .ok l) :
    Writes (activate p) d () [.activate l.name] where
  exec_eq := by
    rw [activate, exec_live_bind h, Diagram.writeAll_cons, Diagram.write,
      Statement.effect_activate, Diagram.apply, ← Diagram.modify_eq_change hd h]
    rfl
  admits := ⟨.activate (Diagram.alive_of_liveLifeline h), trivial⟩

/-- Deactivating a live participant writes one statement if it is active, and nothing if it is
    not. -/
theorem writes_deactivate (hd : d.participantNames.Nodup) (h : d.liveLifeline p = .ok l) :
    Writes (deactivate p) d () (if l.depth = 0 then [] else [.deactivate l.name]) where
  exec_eq := by
    rw [deactivate, exec_live_bind h]
    split
    · rfl
    · rw [Diagram.writeAll_cons, Diagram.write, Statement.effect_deactivate, Diagram.apply,
        ← Diagram.modify_eq_change hd h]
      rfl
  admits := by
    split
    · trivial
    · next h0 =>
      exact ⟨.deactivate (Diagram.alive_of_liveLifeline h) (Nat.pos_of_ne_zero h0), trivial⟩

/-- Retiring a live participant ends its lifeline and writes nothing. -/
theorem exec_retire (h : d.liveLifeline p = .ok l) : exec (retire p) d =
    (.ok (), { d with lifelines := d.lifelines.modify p.index fun l => { l with alive := false } })
    := by
  rw [retire, exec_live_bind h, exec_update]

/-- Deleting a live participant writes one statement, which ends its lifeline. -/
theorem writes_delete (hd : d.participantNames.Nodup) (h : d.liveLifeline p = .ok l) :
    Writes (delete p) d () [.delete l.name] where
  exec_eq := by
    -- the participant is looked up again after the statement has been drawn
    have h' : Diagram.liveLifeline { d with log := d.log ++ [.delete l.name] } p = .ok l := h
    rw [delete, exec_live_bind h, exec_bind_of_ok (exec_emit _ _), exec_retire h',
      Diagram.writeAll_cons, Diagram.write, Statement.effect_delete,
      Diagram.apply, ← Diagram.modify_eq_change hd h]
    rfl
  admits := ⟨.delete (Diagram.alive_of_liveLifeline h), trivial⟩

/-! ### Statements drawn in a style -/

/-- The style that was in force before is in force again, unless there was none. -/
theorem exec_inStyle_emit (style : Option SyncMode) (x : Statement) (d : Diagram) :
    exec (inStyle style (emit x)) d = (.ok (), { d with
      mode := d.mode.or style
      log := d.log ++ SyncMode.around d.mode style x }) := by
  rw [inStyle, exec_bind_of_ok (exec_get d)]
  cases style with
  | none =>
    change exec (emit x >>= _) d = _
    rw [exec_bind_of_ok (exec_emit x d)]
    cases d.mode <;> rfl
  | some mode =>
    dsimp only
    rw [exec_bind_of_ok (exec_setMode mode d), Diagram.writeAll_switch,
      exec_bind_of_ok (exec_emit x _)]
    cases hm : d.mode with
    | none =>
      simp only [SyncMode.around, List.append_assoc]
      rfl
    | some old =>
      -- back to the style before
      rw [exec_setMode, Diagram.writeAll_switch]
      simp [SyncMode.around]

/-- A statement drawn in a style that changes what is kept about a participant. -/
theorem writeAll_around {n : String} {f : Lifeline → Lifeline} {x : Statement}
    (hx : ∀ d : Diagram, d.apply x.effect = d.change n f) (style : Option SyncMode) (d : Diagram) :
    d.writeAll (SyncMode.around d.mode style x) = { d.change n f with
      mode := d.mode.or style
      log := d.log ++ SyncMode.around d.mode style x } := by
  have hw (d : Diagram) : d.write x = { d.change n f with log := d.log ++ [x] } := by
    rw [Diagram.write, hx]
  cases style with
  | none => cases hm : d.mode <;> simp [SyncMode.around, hw, ← hm, Diagram.change]
  | some mode =>
    cases hm : d.mode with
    | none =>
      rw [SyncMode.around, ← hm, Diagram.writeAll_append, Diagram.writeAll_switch,
        Diagram.writeAll_cons, hw]
      simp [Diagram.change, hm]
    | some old =>
      rw [SyncMode.around, ← hm, Diagram.writeAll_append, Diagram.writeAll_switch,
        Diagram.writeAll_cons, hw]
      exact (Diagram.writeAll_switch old).trans (by simp [Diagram.change, hm])

/-- A statement that only changes a lifeline is admitted within a style when it is admitted by
    these lifelines: the switches around it touch none. -/
theorem admits_around {n : String} {f : Lifeline → Lifeline} {x : Statement}
    (hx : ∀ d : Diagram, d.apply x.effect = d.change n f) (style : Option SyncMode)
    (h : ∀ d' : Diagram, d'.lifelines = d.lifelines → d'.Admissible x) :
    d.Admits (SyncMode.around d.mode style x) := by
  cases style with
  | none => cases d.mode <;> exact ⟨h d rfl, trivial⟩
  | some mode =>
    have hs := Diagram.admits_switch (d := d) mode
    have hl := Diagram.writeAll_switch (d := d) mode
    cases hm : d.mode with
    | none =>
      rw [hm] at hs hl
      refine Diagram.admits_append.2 ⟨hs, h _ (by rw [hl]), trivial⟩
    | some old =>
      rw [hm] at hs hl
      refine Diagram.admits_append.2 ⟨hs, h _ (by rw [hl]), ?_⟩
      -- the statement itself does not change the style, so there is one to go back from
      rw [hl, Diagram.write, hx]
      exact Diagram.admits_switch old

/-- A creation between live ends writes its message within the style asked for, if the target
    has not been created before. -/
theorem writes_createInstance (hd : d.participantNames.Nodup)
    (h : d.liveEnds sender target = .ok (s, t)) (hc : t.created = false) (label : String)
    (style : Option SyncMode) : Writes (createInstance sender target label style) d ()
      (SyncMode.around d.mode style (.createMessage s.name t.name label)) := by
  obtain ⟨hs, ht⟩ := Diagram.liveEnds_eq_ok_iff.1 h
  constructor
  · rw [createInstance, exec_endpoints_bind h, exec_live_bind ht, hc]
    change exec (update target _ >>= _) d = _
    rw [exec_bind_of_ok (exec_update _ _ d), exec_inStyle_emit, writeAll_around fun _ => rfl,
      ← Diagram.modify_eq_change hd ht]
  · refine admits_around (fun _ => rfl) style fun d' hd' => .createMessage label ?_ ?_ hc
    · exact Diagram.alive_of_liveLifeline ((Diagram.liveLifeline_congr hd').trans hs)
    · exact Diagram.alive_of_liveLifeline ((Diagram.liveLifeline_congr hd').trans ht)

/-- A destruction between live ends writes its message within the style asked for. -/
theorem writes_destroyInstance (hd : d.participantNames.Nodup)
    (h : d.liveEnds sender target = .ok (s, t)) (style : Option SyncMode) :
    Writes (destroyInstance sender target style) d ()
      (SyncMode.around d.mode style (.destroyMessage s.name t.name)) := by
  obtain ⟨hs, ht⟩ := Diagram.liveEnds_eq_ok_iff.1 h
  constructor
  · rw [destroyInstance, exec_endpoints_bind h, exec_bind_of_ok (exec_inStyle_emit _ _ d),
      writeAll_around fun _ => rfl, ← Diagram.modify_eq_change hd ht]
    exact exec_retire ht
  · refine admits_around (fun _ => rfl) style fun d' hd' => .destroyMessage ?_ ?_
    · exact Diagram.alive_of_liveLifeline ((Diagram.liveLifeline_congr hd').trans hs)
    · exact Diagram.alive_of_liveLifeline ((Diagram.liveLifeline_congr hd').trans ht)

/-! ### Elements that get a name -/

/-- Adding a participant writes its declaration, under the next name. -/
theorem writes_addParticipant (p : Participant) : Writes (addParticipant p) d
    ⟨d.lifelines.length⟩ [p.declaration (NameKind.participant.name d.names.issued)] where
  exec_eq := by
    rw [Diagram.writeAll_cons, Diagram.write, Statement.effect_declaration]
    rfl
  admits := ⟨.declaration p, trivial⟩

/-- Opening a frame at a live participant writes the steps and the opening, under the next
    name. -/
theorem writes_beginFrame (h : d.liveLifeline p = .ok l) (label : String) (steps : Nat) :
    Writes (beginFrame p label steps) d (NameKind.frame.name d.names.issued)
      (List.replicate steps .step ++
        [.beginFrame l.name (NameKind.frame.name d.names.issued) label]) where
  exec_eq := by
    rw [beginFrame, exec_live_bind h, exec_bind_of_ok (writes_step steps).exec_eq,
      Diagram.writeAll_append, Diagram.writeAll_replicate_step]
    rfl
  admits := by
    refine Diagram.admits_append.2 ⟨Diagram.admits_step steps, ?_, trivial⟩
    rw [Diagram.writeAll_replicate_step]
    have h' := Diagram.alive_of_liveLifeline h
    exact .beginFrame label ⟨h'.mem, h'.alive⟩

/-- A comment at a live participant writes one statement, under the next name. -/
theorem writes_comment (h : d.liveLifeline p = .ok l) (c : Comment) :
    Writes (comment p c) d (NameKind.comment.name d.names.issued)
      [.comment l.name (NameKind.comment.name d.names.issued) (c.movement.getD "") c.size c.text]
    where
  exec_eq := by
    rw [comment, exec_live_bind h]
    rfl
  admits := ⟨.comment _ _ _ (Diagram.alive_of_liveLifeline h), trivial⟩

/-- Closing an open frame at a live participant writes the steps and the closing. -/
theorem writes_endFrame (h : d.liveLifeline p = .ok l) {name : String}
    (hn : d.openFrames.contains name = true) (steps : Nat) : Writes (endFrame p name steps) d ()
      (List.replicate steps .step ++ [.endFrame l.name name]) where
  exec_eq := by
    rw [endFrame, exec_live_bind h, exec_bind_of_ok (exec_get d), hn]
    change exec (step steps >>= _) d = _
    rw [exec_bind_of_ok (writes_step steps).exec_eq,
      Diagram.writeAll_append, Diagram.writeAll_replicate_step]
    rfl
  admits := by
    refine Diagram.admits_append.2 ⟨Diagram.admits_step steps, ?_, trivial⟩
    rw [Diagram.writeAll_replicate_step]
    have h' := Diagram.alive_of_liveLifeline h
    exact .endFrame ⟨h'.mem, h'.alive⟩ (List.contains_iff_mem.1 hn)

/-- Connecting a live participant to a comment of the diagram writes one statement. -/
theorem writes_connectToComment (h : d.liveLifeline p = .ok l) {name : String}
    (hn : d.comments.contains name = true) :
    Writes (connectToComment p name) d () [.connectToComment l.name name] where
  exec_eq := by
    rw [connectToComment, exec_live_bind h, exec_bind_of_ok (exec_get d), hn]
    rfl
  admits := ⟨.connectToComment (Diagram.alive_of_liveLifeline h) (List.contains_iff_mem.1 hn),
    trivial⟩

/-- A constraint at a live participant writes one statement, on or below the line. -/
theorem writes_lineConstraint (h : d.liveLifeline p = .ok l) (text : String) (below : Bool) :
    Writes (lineConstraint p text below) d () [.lineConstraint l.name text below] :=
  (writes_live h).bind (writes_emit (Statement.effect_lineConstraint _ _ _)
    (.lineConstraint text below (Diagram.alive_of_liveLifeline h)))

/-! ### Calls -/

/-- The part of a call up to its message, with what comes after it. -/
theorem writes_request {k : Draw α} {a : α} {ss : List Statement}
    (h : d.liveEnds sender target = .ok (s, t)) (request : String) (mode : SyncMode)
    (hk : Writes k
      (d.writeAll (.step :: SyncMode.switch d.mode mode ++ [.message s.name t.name request]))
      a ss) :
    Writes (do step 1; setMode mode; message sender target request; k) d a
      (.step :: SyncMode.switch d.mode mode ++ .message s.name t.name request :: ss) := by
  have hl : ((d.write .step).writeAll (SyncMode.switch d.mode mode)).lifelines = d.lifelines :=
    Diagram.lifelines_writeAll_switch _ _
  rw [Diagram.writeAll_append] at hk
  exact (writes_step 1).bind ((writes_setMode mode).bind
    ((writes_message ((Diagram.liveEnds_congr hl).trans h) request).bind hk))

/-- The answer to a call, with what comes after it. -/
theorem writes_answer {k : Draw α} {a : α} {ss : List Statement}
    (hd : d.participantNames.Nodup) (h : d.liveEnds target sender = .ok (t, s))
    (response : String) (mode : SyncMode)
    (hk : Writes k (d.writeAll (SyncMode.switch d.mode mode ++
      .returnMessage t.name s.name response ::
        if t.depth = 0 then [] else [.deactivate t.name])) a ss) :
    Writes (do setMode mode; returnMessage target sender response; deactivate target; k) d a
      (SyncMode.switch d.mode mode ++ .returnMessage t.name s.name response ::
        (if t.depth = 0 then [] else [.deactivate t.name]) ++ ss) := by
  have hl : (d.writeAll (SyncMode.switch d.mode mode)).lifelines = d.lifelines :=
    Diagram.lifelines_writeAll_switch _ _
  have h' := (Diagram.liveEnds_congr hl).trans h
  let d' := (d.writeAll (SyncMode.switch d.mode mode)).write
    (.returnMessage t.name s.name response)
  have hd' : d'.participantNames.Nodup := by
    rwa [Diagram.participantNames, show d'.lifelines = d.lifelines from hl]
  have ht : d'.liveLifeline target = .ok t := (Diagram.liveEnds_eq_ok_iff.1 h').1
  rw [Diagram.writeAll_append] at hk
  rw [List.append_assoc]
  exact (writes_setMode mode).bind
    ((writes_returnMessage h' response).bind ((writes_deactivate hd' ht).bind hk))

/-- Pushing a method writes a step, the switch of style, the request and the activation of the
    target. -/
theorem writes_pushMethod (hd : d.participantNames.Nodup)
    (h : d.liveEnds sender target = .ok (s, t)) (request : String) (mode : SyncMode) :
    Writes (pushMethod sender target request mode) d ()
      (.step :: SyncMode.switch d.mode mode ++
        [.message s.name t.name request, .activate t.name]) := by
  have hl := congrArg Diagram.lifelines
    (Diagram.writeAll_request (d := d) mode s.name t.name request)
  refine Writes.of_endpoints h (writes_request h request mode (writes_activate ?_ ?_))
  · rwa [Diagram.participantNames, hl]
  · exact (Diagram.liveLifeline_congr hl).trans (Diagram.liveEnds_eq_ok_iff.1 h).2

/-- Popping a method writes the switch of style, the response, the deactivation of the target
    if it is active, and a step. -/
theorem writes_popMethod (hd : d.participantNames.Nodup)
    (h : d.liveEnds sender target = .ok (s, t)) (response : String) (mode : SyncMode) :
    Writes (popMethod sender target response mode) d ()
      (SyncMode.switch d.mode mode ++ .returnMessage t.name s.name response ::
        (if t.depth = 0 then [] else [.deactivate t.name]) ++ [.step]) := by
  obtain ⟨hs, ht⟩ := Diagram.liveEnds_eq_ok_iff.1 h
  exact Writes.of_endpoints h
    (writes_answer hd (Diagram.liveEnds_eq_ok_iff.2 ⟨ht, hs⟩) response mode (writes_step 1))

/-- The target's activation from a request to the answer. -/
theorem writes_response (hd : d.participantNames.Nodup)
    (h : d.liveEnds sender target = .ok (s, t)) (response : String) (steps : Nat)
    (mode : SyncMode) :
    Writes (do
        activate target
        step steps
        setMode mode
        returnMessage target sender response
        deactivate target
        step 1) d ()
      (.activate t.name :: List.replicate steps .step ++ SyncMode.switch d.mode mode ++
        [.returnMessage t.name s.name response, .deactivate t.name, .step]) := by
  have ht := (Diagram.liveEnds_eq_ok_iff.1 h).2
  let bar (l : Lifeline) : Lifeline := { l with depth := l.depth + 1 }
  let d' := (d.write (.activate t.name)).writeAll (List.replicate steps .step)
  have hd' : d' = { d.change t.name bar with
      log := d.log ++ [.activate t.name] ++ List.replicate steps .step } :=
    Diagram.writeAll_replicate_step steps
  have hnames : d'.participantNames.Nodup := by
    rw [hd']
    rw [← Diagram.participantNames_change (n := t.name) (f := bar) fun _ => rfl] at hd
    exact hd
  have hmode : d'.mode = d.mode := by
    rw [hd']
    rfl
  -- with one bar more the ends are still alive; in a self-call both of them have it
  obtain ⟨s', hends, hname⟩ := Diagram.liveEnds_change (f := bar) h (fun _ => rfl) fun _ => rfl
  rw [← Diagram.liveEnds_congr (show d'.lifelines = _ by rw [hd'])] at hends
  obtain ⟨hs', ht'⟩ := Diagram.liveEnds_eq_ok_iff.1 hends
  have ha := writes_answer hnames (Diagram.liveEnds_eq_ok_iff.2 ⟨ht', hs'⟩) response mode
    (writes_step 1)
  rw [hname, hmode] at ha
  refine ((writes_activate hd ht).bind ((writes_step steps).bind ha)).cast ?_
  simp [bar]

/-- A call with a response, as the program it runs: its two halves end with the deactivation of
    the target. -/
theorem callMethod_of_response {call : Call} {response : String}
    (h : call.response = some response) : callMethod sender target call = (do
      let _ ← endpoints sender target
      step 1
      setMode call.requestMode
      message sender target call.request
      activate target
      step call.steps
      setMode call.responseMode
      returnMessage target sender response
      deactivate target
      step 1) := by
  rw [callMethod, h]

/-- A call without a response, as the program it runs: the request between two steps. -/
theorem callMethod_of_no_response {call : Call} (h : call.response = none) :
    callMethod sender target call = (do
      let _ ← endpoints sender target
      step 1
      setMode call.requestMode
      message sender target call.request
      step 1) := by
  rw [callMethod, h]

/-- A call between live ends writes its request and, for a response, the activation of the
    target, the response and the deactivation. -/
theorem writes_callMethod (hd : d.participantNames.Nodup)
    (h : d.liveEnds sender target = .ok (s, t)) (call : Call) :
    Writes (callMethod sender target call) d ()
      (.step :: SyncMode.switch d.mode call.requestMode ++ .message s.name t.name call.request ::
        (match call.response with
          | some response =>
            .activate t.name :: List.replicate call.steps .step ++
              SyncMode.switch (some call.requestMode) call.responseMode ++
              [.returnMessage t.name s.name response, .deactivate t.name]
          | none => []) ++ [.step]) := by
  cases hr : call.response with
  | none =>
    rw [callMethod_of_no_response hr]
    exact (Writes.of_endpoints h (writes_request h _ _ (writes_step 1))).cast (by simp)
  | some response =>
    -- the request leaves the lifelines alone, so both ends are found again after it
    have hd' := Diagram.writeAll_request (d := d) call.requestMode s.name t.name call.request
    have hl := congrArg Diagram.lifelines hd'
    have ha := writes_response (by rwa [Diagram.participantNames, hl])
      ((Diagram.liveEnds_congr hl).trans h) response call.steps call.responseMode
    rw [show Diagram.mode _ = _ from congrArg Diagram.mode hd'] at ha
    rw [callMethod_of_response hr]
    exact (Writes.of_endpoints h (writes_request h _ _ ha)).cast (by simp)

end Draw

end Lifelines
