import Lifelines.Proofs.Reachable

/-!
# The log determines the state

Nothing about the state of a diagram is lost when only its log is kept: but for
the layout parameters, which are not drawn, the diagram can be had back from the
log.

* `Diagram.replay`: the diagram that a log leads to;
* `Lifeline.Recorded`: what a log tells about a participant, read off the log
  without replaying it;
* `Diagram.Reachable.determined_by_log`: a reachable diagram is the replay of its log.
-/

namespace Lifelines

/-- The diagram that a log leads to. -/
def Diagram.replay (log : List Statement) : Diagram :=
  Diagram.empty.writeAll log

/-- The style that a statement switches to. -/
def Statement.style? (s : Statement) : Option SyncMode :=
  if s = SyncMode.sync.statement then some .sync
  else if s = SyncMode.async.statement then some .async
  else none

/-- What a log tells about a participant. -/
structure Lifeline.Recorded (l : Lifeline) (log : List Statement) : Prop where
  declared : ∃ p : Participant, p.declaration l.name ∈ log
  declaration : ∀ p : Participant, p.declaration l.name ∈ log →
    p.kind = l.kind ∧ (l.created = false → p.label = l.label)
  created : l.created = true ↔ ∃ sender label, .createMessage sender l.name label ∈ log
  label : ∀ sender label, .createMessage sender l.name label ∈ log → l.label = some label
  depth : (l.depth : Int) = log.count (.activate l.name) - log.count (.deactivate l.name)
  gone : l.alive = false ↔ .delete l.name ∈ log ∨ ∃ sender, .destroyMessage sender l.name ∈ log

/-! ### Changes of a lifeline -/

namespace Lifeline

variable {l : Lifeline} {e : Effect}

/-- A participant is created by the message that says so, and stays created. -/
theorem created_after :
    (l.after e).created = true ↔ l.created = true ∨ ∃ label, e = .create l.name label := by
  cases e with
  | create n label =>
    by_cases hn : l.name = n
    · simp [after, hn]
    · simp [after, hn, Ne.symm hn]
  | _ => simp [after, apply_ite]

theorem alive_after : (l.after e).alive = false ↔ l.alive = false ∨ e = .leave l.name := by
  unfold after
  split <;> grind

/-- Only a creating message changes a label. -/
theorem label_after_of_ne (h : ∀ label, e ≠ .create l.name label) :
    (l.after e).label = l.label := by
  unfold after
  split <;> grind

theorem label_after_create (label : String) :
    (l.after (.create l.name label)).label = some label := by
  simp [after]

/-- Bars on a participant are counted up and down. -/
theorem depth_after (h : e = .deactivate l.name → 0 < l.depth) : ((l.after e).depth : Int) =
    l.depth + (if e = .activate l.name then 1 else 0) -
      if e = .deactivate l.name then 1 else 0 := by
  unfold after
  split <;> grind

end Lifeline

/-- A statement switches to a style if that is all that it changes. -/
theorem Statement.style?_eq_some_iff {s : Statement} {mode : SyncMode} :
    s.style? = some mode ↔ s.effect = .style mode := by
  rw [effect_eq_style_iff]
  constructor
  · intro h
    unfold style? at h
    split at h
    · next hs => cases h; exact hs
    · split at h
      · next hs => cases h; exact hs
      · cases h
  · rintro rfl
    cases mode <;> rfl

/-! ### A participant and the log -/

section

variable {d : Diagram} {s : Statement} {log : List Statement} {n : String}

/-- After a declaration under a new name nothing else refers to the name. -/
theorem Participant.not_mem_of_new {p : Participant} (hn : ∀ t ∈ log, n ∉ t.names)
    {t : Statement} (ht : n ∈ t.names) (he : t.effect ≠ .declare n p.kind p.label) :
    t ∉ log ++ [p.declaration n] := by
  intro hmem
  rw [List.mem_append, List.mem_singleton] at hmem
  rcases hmem with hmem | rfl
  · exact hn t hmem ht
  · exact he (Statement.effect_declaration n p)

/-- With an admissible statement more, a participant is created in the log if it was before, or
    is created by the statement. -/
theorem Diagram.Admissible.exists_createMessage_mem (hs : d.Admissible s) :
    (∃ sender label, .createMessage sender n label ∈ log ++ [s]) ↔
      (∃ sender label, .createMessage sender n label ∈ log) ∨
        ∃ label, s.effect = .create n label := by
  simp only [hs.effect_eq_create_iff, List.mem_append, List.mem_singleton, exists_or]
  rw [exists_comm (p := fun sender label => .createMessage sender n label = s)]
  simp only [eq_comm]

/-- With an admissible statement more, a participant has left in the log if it had before, or
    leaves with the statement. -/
theorem Diagram.Admissible.exists_end_mem (hs : d.Admissible s) :
    (.delete n ∈ log ++ [s] ∨ ∃ sender, .destroyMessage sender n ∈ log ++ [s]) ↔
      (.delete n ∈ log ∨ ∃ sender, .destroyMessage sender n ∈ log) ∨ s.effect = .leave n := by
  simp only [hs.effect_eq_leave_iff, List.mem_append, List.mem_singleton, exists_or,
    @eq_comm _ s]
  exact or_or_or_comm

end

namespace Lifeline

variable {d : Diagram} {s : Statement} {l : Lifeline} {log : List Statement}

/-- A declaration under a new name tells all about the participant. -/
theorem recorded_declaration (p : Participant) {n : String} (hn : ∀ t ∈ log, n ∉ t.names) :
    (p.lifeline n).Recorded (log ++ [p.declaration n]) where
  declared := ⟨p, by simp⟩
  declaration q hq := by
    rw [List.mem_append, List.mem_singleton] at hq
    rcases hq with hq | hq
    · exact absurd (by simp) (hn _ hq)
    · have he := congrArg Statement.effect hq
      simp only [Statement.effect_declaration, Effect.declare.injEq] at he
      exact ⟨he.2.1, fun _ => he.2.2⟩
  created := by
    simp only [Participant.created_lifeline, Bool.false_eq_true, false_iff, not_exists]
    exact fun sender label => p.not_mem_of_new hn (by simp) (by simp)
  label sender label h := absurd h (p.not_mem_of_new hn (by simp) (by simp))
  depth := by
    rw [List.count_eq_zero.2 (p.not_mem_of_new hn (by simp) (by simp)),
      List.count_eq_zero.2 (p.not_mem_of_new hn (by simp) (by simp))]
    rfl
  gone := by
    simp only [Participant.alive_lifeline, Bool.true_eq_false, false_iff, not_or, not_exists]
    exact ⟨p.not_mem_of_new hn (by simp) (by simp),
      fun sender => p.not_mem_of_new hn (by simp) (by simp)⟩

/-- What a log tells about a participant goes on to hold when an admissible statement
    is written. -/
theorem Recorded.write (h : l.Recorded d.log) (hd : d.Named) (hs : d.Admissible s)
    (hl : l ∈ d.lifelines) : (l.after s.effect).Recorded (d.log ++ [s]) where
  declared := by
    obtain ⟨p, hp⟩ := h.declared
    exact ⟨p, by simp [hp]⟩
  declaration q hq := by
    rw [name_after, List.mem_append, List.mem_singleton] at hq
    rcases hq with hq | rfl
    · rw [kind_after]
      -- the label of the declaration is the participant's own as long as nothing has created it
      refine ⟨(h.declaration q hq).1, fun hc => ?_⟩
      rw [Bool.eq_false_iff, ne_eq, created_after, not_or, not_exists] at hc
      rw [label_after_of_ne hc.2]
      exact (h.declaration q hq).2 (Bool.eq_false_iff.2 hc.1)
    · exact absurd (Statement.effect_declaration _ q) (hs.not_declare hd hl _ _)
  created := by rw [created_after, h.created, name_after, hs.exists_createMessage_mem]
  label sender label hmem := by
    rw [name_after, List.mem_append, List.mem_singleton] at hmem
    rcases hmem with hmem | rfl
    · -- whoever has been created before is not created again
      rw [label_after_of_ne, h.label sender label hmem]
      intro label' he
      have hcreated := h.created.2 ⟨sender, label, hmem⟩
      rw [hs.not_created hd hl he] at hcreated
      cases hcreated
    · exact label_after_create label
  depth := by
    rw [depth_after (hs.depth_pos hd hl), h.depth]
    simp only [Statement.effect_eq_activate_iff, Statement.effect_eq_deactivate_iff, name_after,
      List.count_append, List.count_singleton, beq_iff_eq]
    grind
  gone := by rw [alive_after, h.gone, name_after, hs.exists_end_mem]

end Lifeline

/-! ### The state and the log -/

namespace Diagram

variable {d : Diagram}

/-- The log of a reachable diagram tells about each of its participants. -/
theorem Reachable.recorded (h : d.Reachable) {l : Lifeline} (hl : l ∈ d.lifelines) :
    l.Recorded d.log :=
  h.lifeline_induct (motive := Lifeline.Recorded)
    (fun _ _ p hn => Lifeline.recorded_declaration p hn)
    (fun _ _ _ hd hs hl h => h.write hd hs hl) hl

/-- Replaying the log gives all but the layout parameters, which are not in it. -/
theorem Reachable.replay_log (h : d.Reachable) : replay d.log = { d with params := {} } := by
  refine h.induct (motive := fun d => replay d.log = { d with params := {} }) rfl ?_ ?_
  · intro d s _ _ ih
    rw [replay] at ih ⊢
    rw [log_write, writeAll_append, ih, writeAll_cons, writeAll_nil, write_params]
    rfl
  · exact fun _ _ ih => ih

/-- A statement puts the style in force that it switches to, if it does. -/
theorem mode_write {s : Statement} : (d.write s).mode = s.style?.or d.mode := by
  cases hs : s.style? with
  | some mode =>
    rw [write, Statement.style?_eq_some_iff.1 hs]
    rfl
  | none =>
    rw [write]
    cases he : s.effect with
    | style mode =>
      rw [Statement.style?_eq_some_iff.2 he] at hs
      cases hs
    | _ => rfl

/-- The styles in a log, with a statement more. -/
theorem styles_write (s : Statement) : (d.write s).log.filterMap Statement.style? =
    d.log.filterMap Statement.style? ++ s.style?.toList := by
  rw [log_write, List.filterMap_append]
  cases hs : s.style? <;> simp [hs]

/-- The style in force goes on to be the one set last. -/
theorem mode_write_eq_getLast? {s : Statement}
    (h : d.mode = (d.log.filterMap Statement.style?).getLast?) :
    (d.write s).mode = ((d.write s).log.filterMap Statement.style?).getLast? := by
  rw [mode_write, h, styles_write, List.getLast?_append]
  cases s.style? <;> rfl

/-- The style in force is the one that the log sets last. -/
theorem Reachable.mode_eq (h : d.Reachable) :
    d.mode = (d.log.filterMap Statement.style?).getLast? :=
  h.induct (motive := fun d => d.mode = (d.log.filterMap Statement.style?).getLast?) rfl
    (fun _ _ _ _ => mode_write_eq_getLast?) fun _ _ ih => ih

/-- A reachable diagram is the replay of its log, but for the layout parameters. Its
    style is the one set last, and each participant is as the log tells. -/
theorem Reachable.determined_by_log (h : d.Reachable) :
    replay d.log = { d with params := {} } ∧
      d.mode = (d.log.filterMap Statement.style?).getLast? ∧
      (∀ l ∈ d.lifelines, l.Recorded d.log) ∧
      ∀ d' : Diagram, d'.Reachable → d'.log = d.log → { d' with params := d.params } = d := by
  refine ⟨h.replay_log, h.mode_eq, fun l hl => h.recorded hl, ?_⟩
  -- both diagrams are the replay of the same log
  intro d' h' hlog
  have heq : { d' with params := {} } = { d with params := {} } := by
    rw [← h'.replay_log, ← h.replay_log, hlog]
  exact congrArg (fun e : Diagram => { e with params := d.params }) heq

/-- A diagram in which an object creates another one and calls it. -/
def creation : List Op :=
  [.addParticipant (.object "a"), .addParticipant .placeholder, .setMode .sync,
    .createInstance ⟨0⟩ ⟨1⟩ "b" (some .async), .pushMethod ⟨0⟩ ⟨1⟩ "r" .sync]

/-- The log tells that the second object was created, and that it is active. -/
theorem creation_determined_by_log :
    let d := (Op.runAll creation .empty).2
    d.Reachable ∧ replay d.log = { d with params := {} } ∧
      ∃ l ∈ d.lifelines, l.Recorded d.log ∧ l.label = some "b" ∧ l.depth = 1 := by
  have reached : (Op.runAll creation .empty).2.Reachable := ⟨_, rfl⟩
  obtain ⟨replayed, _, recorded, _⟩ := reached.determined_by_log
  refine ⟨reached, replayed, ?_⟩
  exact ⟨_, List.mem_cons_of_mem _ List.mem_cons_self,
    recorded _ (List.mem_cons_of_mem _ List.mem_cons_self), rfl, rfl⟩

end Diagram

end Lifelines
