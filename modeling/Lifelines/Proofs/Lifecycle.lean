import Lifelines.Proofs.Answers
import Lifelines.Proofs.Replay

/-!
# Lifecycles in finished documents

In a finished document the life of each participant is told in order. It is
declared once, before anything refers to it; it may be created by a message, at
most once; bars on it end only after they have started; and it ends once, by a
destroying message, by a cross or at the bottom of the diagram, after which
nothing refers to it again.

* `Lifecycle`: what statements tell about the participant with a name;
* `Lifeline.Lived`: the same for a log that is still being written, where a
  participant that is alive has not ended yet;
* `Op.lifecycles_of_finish`: every participant of a finished document has a
  lifecycle, and names that are not participants' were answered by operations.
-/

namespace Lifelines

namespace Statement

/-- Whether a statement declares the participant with a name. -/
def declares (s : Statement) (n : String) : Bool :=
  ["object", "actor", "pobject"].contains s.name && s.args.head? == some (.ident n)

/-- Whether a statement ends the lifeline of the participant with a name. -/
def ends (s : Statement) (n : String) : Bool :=
  s.name == "dmessage" && s.args[1]? == some (.ident n) ||
    ["delete", "complete"].contains s.name && s.args.head? == some (.ident n)

/-- Whether a statement is a message that creates the participant with a name. -/
def creates (s : Statement) (n : String) : Bool :=
  s.name == "cmessage" && s.args[1]? == some (.ident n)

end Statement

/-- Statements that tell the life of a participant from its declaration to its end. -/
structure Lifecycle (n : String) (ss : List Statement) : Prop where
  declared_once : ss.countP (·.declares n) = 1
  declared_first : ss.Pairwise fun s t => t.declares n = true → s.references n = false
  ended_once : ss.countP (·.ends n) = 1
  ended_last : ss.Pairwise fun s t => s.ends n = true → t.references n = false
  created_once : ss.countP (·.creates n) ≤ 1
  balanced : ∀ before, before <+: ss →
    before.count (.deactivate n) ≤ before.count (.activate n)

/-- What a log tells about a participant that need not have ended yet. -/
structure Lifeline.Lived (l : Lifeline) (log : List Statement) : Prop where
  declared_once : log.countP (·.declares l.name) = 1
  declared_first : log.Pairwise fun s t => t.declares l.name = true → s.references l.name = false
  ended : log.countP (·.ends l.name) = if l.alive then 0 else 1
  ended_last : log.Pairwise fun s t => s.ends l.name = true → t.references l.name = false
  created : log.countP (·.creates l.name) = if l.created then 1 else 0
  balanced : ∀ before, before <+: log →
    before.count (.deactivate l.name) ≤ before.count (.activate l.name)

namespace Statement

variable {s : Statement} {n : String}

theorem references_of_declares (h : s.declares n = true) : s.references n = true := by
  simp only [declares, Bool.and_eq_true, beq_iff_eq] at h
  exact List.contains_iff_mem.2 (List.mem_of_head? h.2)

/-- What ends a lifeline refers to its participant. -/
theorem references_of_ends (h : s.ends n = true) : s.references n = true := by
  simp only [ends, Bool.or_eq_true, Bool.and_eq_true, beq_iff_eq] at h
  rcases h with ⟨_, h⟩ | ⟨_, h⟩
  · exact List.contains_iff_mem.2 (List.mem_of_getElem? h)
  · exact List.contains_iff_mem.2 (List.mem_of_head? h)

theorem references_of_creates (h : s.creates n = true) : s.references n = true := by
  simp only [creates, Bool.and_eq_true, beq_iff_eq] at h
  exact List.contains_iff_mem.2 (List.mem_of_getElem? h.2)

/-- A statement says nothing about a name. -/
structure Ignores (s : Statement) (n : String) : Prop where
  references : s.references n = false
  declares : s.declares n = false
  ends : s.ends n = false
  creates : s.creates n = false

/-- A statement says nothing about the names that it does not refer to. -/
theorem ignores_of_not_mem (h : n ∉ s.names) : s.Ignores n := by
  rw [← references_iff, Bool.not_eq_true] at h
  refine ⟨h, ?_, ?_, ?_⟩ <;> rw [Bool.eq_false_iff] <;> intro hs
  · simp [references_of_declares hs] at h
  · simp [references_of_ends hs] at h
  · simp [references_of_creates hs] at h

variable (p : Participant)

@[simp]
theorem declares_declaration : (p.declaration n).declares n = true := by
  cases p <;> simp [Participant.declaration, declares, object, actor, placeholder]

@[simp]
theorem ends_declaration : (p.declaration n).ends n = false := by
  cases p <;> simp [Participant.declaration, ends, object, actor, placeholder]

@[simp]
theorem creates_declaration : (p.declaration n).creates n = false := by
  cases p <;> simp [Participant.declaration, creates, object, actor, placeholder]

variable (a : String)

@[simp]
theorem declares_complete : (complete a).declares n = false := by
  simp [declares, complete]

@[simp]
theorem ends_complete : (complete a).ends n = (a == n) := by
  simp [ends, complete]

@[simp]
theorem creates_complete : (complete a).creates n = false := by
  simp [creates, complete]

end Statement

namespace Diagram

variable {d : Diagram} {s : Statement} {n : String}

/-- What an admissible statement declares, ends or creates is what its effect says. -/
theorem Admissible.marks_iff (h : d.Admissible s) :
    (s.declares n = true ↔ ∃ kind label, s.effect = .declare n kind label) ∧
      (s.ends n = true ↔ s.effect = .leave n) ∧
      (s.creates n = true ↔ ∃ label, s.effect = .create n label) := by
  unfold Statement.declares Statement.ends Statement.creates
  cases h with
  | declaration p =>
    cases p <;> simp [Statement.effect, Participant.declaration, Statement.object,
      Statement.actor, Statement.placeholder]
  | @mode mode _ => cases mode <;> simp [Statement.effect, SyncMode.statement, SyncMode.name]
  | lineConstraint _ below => cases below <;> simp [Statement.effect, Statement.lineConstraint]
  | _ =>
    simp [Statement.effect, Statement.step, Statement.beginFrame, Statement.endFrame,
      Statement.comment, Statement.connectToComment, Statement.objectConstraint,
      Statement.activate, Statement.deactivate, Statement.message, Statement.returnMessage,
      Statement.createMessage, Statement.destroyMessage, Statement.delete]

/-- Of the admissible statements, those declare a participant that change the diagram so. -/
theorem Admissible.declares_iff (h : d.Admissible s) :
    s.declares n = true ↔ ∃ kind label, s.effect = .declare n kind label :=
  h.marks_iff.1

/-- No participant is declared again. -/
theorem Admissible.not_declares (h : d.Admissible s) (hd : d.Named) {l : Lifeline}
    (hl : l ∈ d.lifelines) : s.declares l.name = false := by
  rw [Bool.eq_false_iff, ne_eq, h.declares_iff]
  rintro ⟨kind, label, he⟩
  exact h.not_declare hd hl kind label he

/-- Of the admissible statements, those end a lifeline that let the participant leave. -/
theorem Admissible.ends_iff (h : d.Admissible s) : s.ends n = true ↔ s.effect = .leave n :=
  h.marks_iff.2.1

/-- Of the admissible statements, those create a participant that change the diagram so. -/
theorem Admissible.creates_iff (h : d.Admissible s) :
    s.creates n = true ↔ ∃ label, s.effect = .create n label :=
  h.marks_iff.2.2

end Diagram

/-! ### While the log is written -/

namespace Lifeline

variable {d : Diagram} {s : Statement} {l : Lifeline} {log : List Statement}

/-- A declaration under a new name starts a life. -/
theorem lived_declaration (p : Participant) {n : String} (hn : ∀ t ∈ log, n ∉ t.names) :
    (p.lifeline n).Lived (log ++ [p.declaration n]) := by
  have hlog : ∀ t ∈ log, t.Ignores n := fun t ht => Statement.ignores_of_not_mem (hn t ht)
  have hends : ∀ t ∈ log ++ [p.declaration n], t.ends n = false := by
    simpa [or_imp, forall_and] using fun t ht => (hlog t ht).ends
  exact
    { declared_once := by
        rw [List.countP_append, List.countP_eq_zero.2 fun t ht => by simp [(hlog t ht).declares]]
        simp
      declared_first := by
        refine List.pairwise_append.2 ⟨?_, List.pairwise_singleton _ _, ?_⟩
        · exact List.pairwise_of_forall_mem_list fun s hs _ _ _ => (hlog s hs).references
        · exact fun s hs _ _ _ => (hlog s hs).references
      ended := List.countP_eq_zero.2 fun t ht => by simp [hends t ht]
      ended_last := by
        refine List.pairwise_of_forall_mem_list fun t ht _ _ h => ?_
        rw [Participant.name_lifeline, hends t ht] at h
        cases h
      created := by
        rw [List.countP_append, List.countP_eq_zero.2 fun t ht => by simp [(hlog t ht).creates]]
        simp
      balanced := fun before hb => by
        have hnone := p.not_mem_of_new (t := .deactivate n) hn (by simp) (by simp)
        rw [Participant.name_lifeline, List.count_eq_zero.2 fun hmem => hnone (hb.subset hmem)]
        exact Nat.zero_le _ }

section

variable (h : l.Lived d.log) (hd : d.Named) (hs : d.Admissible s) (hl : l ∈ d.lifelines)

include h hd hs hl

/-- A participant that is referred to has not ended. -/
theorem Lived.countP_ends_of_references (hn : s.references l.name = true) :
    d.log.countP (·.ends l.name) = 0 := by
  rw [h.ended, hs.alive hd hl hn, if_pos rfl]

/-- A lifeline ends with the statement that lets its participant leave. -/
theorem Lived.countP_ends_write : (d.log ++ [s]).countP (·.ends l.name) =
    if (l.after s.effect).alive then 0 else 1 := by
  rw [List.countP_append, List.countP_singleton]
  cases hends : s.ends l.name with
  -- what ends here has been referred to, so it had not ended before
  | true =>
    have hgone := alive_after.2 (.inr (hs.ends_iff.1 hends))
    rw [h.countP_ends_of_references hd hs hl (Statement.references_of_ends hends), hgone]
    rfl
  | false =>
    have hne : ¬s.effect = .leave l.name := by
      rw [← hs.ends_iff, hends]
      exact Bool.false_ne_true
    have hgone : (l.after s.effect).alive = true ↔ l.alive = true := by
      rw [← not_iff_not, Bool.not_eq_true, Bool.not_eq_true]
      exact alive_after.trans (or_iff_left hne)
    simp [h.ended, hgone]

/-- A participant is created with the statement that says so. -/
theorem Lived.countP_creates_write : (d.log ++ [s]).countP (·.creates l.name) =
    if (l.after s.effect).created then 1 else 0 := by
  rw [List.countP_append, List.countP_singleton, h.created]
  cases hcreates : s.creates l.name with
  | true =>
    obtain ⟨label, he⟩ := hs.creates_iff.1 hcreates
    have hcreated := created_after.2 (.inr ⟨label, he⟩)
    simp [hs.not_created hd hl he, hcreated]
  | false =>
    have hne : ¬∃ label, s.effect = .create l.name label := by
      rw [← hs.creates_iff, hcreates]
      exact Bool.false_ne_true
    have hcreated : (l.after s.effect).created = true ↔ l.created = true :=
      created_after.trans (or_iff_left hne)
    simp [hcreated]

/-- An admissible statement goes on with the life of each participant. -/
theorem Lived.write (hr : (l.after s.effect).Recorded (d.log ++ [s])) :
    (l.after s.effect).Lived (d.log ++ [s]) where
  declared_once := by
    rw [name_after, List.countP_append, List.countP_singleton, h.declared_once,
      hs.not_declares hd hl]
    rfl
  declared_first := by
    rw [name_after]
    refine List.pairwise_append.2 ⟨h.declared_first, List.pairwise_singleton _ _, ?_⟩
    intro t _ _ ht
    rw [List.mem_singleton.1 ht, hs.not_declares hd hl]
    rintro ⟨⟩
  ended := by
    rw [name_after]
    exact h.countP_ends_write hd hs hl
  ended_last := by
    rw [name_after]
    refine List.pairwise_append.2 ⟨h.ended_last, List.pairwise_singleton _ _, ?_⟩
    intro t ht _ hs' hends
    rw [List.mem_singleton.1 hs', Bool.eq_false_iff]
    intro hn
    exact List.countP_eq_zero.1 (h.countP_ends_of_references hd hs hl hn) t ht hends
  created := by
    rw [name_after]
    exact h.countP_creates_write hd hs hl
  balanced before hb := by
    have hdepth := hr.depth
    rw [name_after] at hdepth ⊢
    -- a new prefix is the whole log, where the depth is the difference
    rcases List.prefix_concat_iff.1 hb with rfl | hb
    · omega
    · exact h.balanced before hb

end

end Lifeline

/-! ### When the diagram is finished -/

namespace Diagram

variable {d : Diagram} {l : Lifeline}

theorem nodup_liveNames (hd : d.Named) : d.liveNames.Nodup :=
  (List.filter_sublist.map Lifeline.name).nodup hd.distinct

/-- The name of a participant is among the live ones if the participant is alive. -/
theorem mem_liveNames_iff (hd : d.Named) (hl : l ∈ d.lifelines) :
    l.name ∈ d.liveNames ↔ l.alive = true := by
  simp only [liveNames, List.mem_map, List.mem_filter]
  constructor
  · rintro ⟨l', ⟨hl', ha⟩, hn⟩
    rwa [← hd.eq_of_name_eq hl' hl hn]
  · exact fun ha => ⟨l, ⟨hl, ha⟩, rfl⟩

/-- A participant is completed if it is alive. -/
theorem countP_ends_complete (hd : d.Named) (hl : l ∈ d.lifelines) :
    (d.liveNames.map Statement.complete).countP (·.ends l.name) = if l.alive then 1 else 0 := by
  have hcount : (d.liveNames.map Statement.complete).countP (·.ends l.name) =
      d.liveNames.count l.name := by
    simp only [List.countP_map, Function.comp_def, Statement.ends_complete]
    rfl
  rw [hcount]
  cases ha : l.alive with
  | true => exact List.count_eq_one_of_mem (nodup_liveNames hd) ((mem_liveNames_iff hd hl).2 ha)
  | false =>
    refine List.count_eq_zero.2 fun hmem => ?_
    rw [(mem_liveNames_iff hd hl).1 hmem] at ha
    cases ha

/-- Participants are completed once each. -/
theorem pairwise_complete (hd : d.Named) (n : String) :
    (d.liveNames.map Statement.complete).Pairwise
      fun s t => s.ends n = true → t.references n = false := by
  refine List.pairwise_map.2 ((nodup_liveNames hd).imp fun hne hends => ?_)
  rw [Statement.ends_complete, beq_iff_eq] at hends
  subst hends
  rw [Bool.eq_false_iff, ne_eq, Statement.references_iff]
  simp [hne]

end Diagram

namespace Lifeline

variable {d : Diagram} {l : Lifeline}

/-- Whoever has ended before the diagram is finished is not completed. -/
theorem Lived.not_mem_liveNames (h : l.Lived d.log) (hd : d.Named) (hl : l ∈ d.lifelines)
    {s : Statement} (hs : s ∈ d.log) (hends : s.ends l.name = true) : l.name ∉ d.liveNames := by
  intro hn
  have hnone := h.ended
  rw [(Diagram.mem_liveNames_iff hd hl).1 hn, if_pos rfl, List.countP_eq_zero] at hnone
  exact hnone s hs hends

/-- Completing the participants that are left brings every life to its end. -/
theorem Lived.finish (h : l.Lived d.log) (hd : d.Named) (hl : l ∈ d.lifelines) :
    Lifecycle l.name (d.log ++ d.liveNames.map Statement.complete) where
  declared_once := by
    rw [List.countP_append, h.declared_once, List.countP_map, List.countP_eq_zero.2 (by simp)]
  declared_first := by
    refine List.pairwise_append.2 ⟨h.declared_first, ?_, ?_⟩
    · refine List.pairwise_map.2 (List.pairwise_of_forall fun _ _ h => ?_)
      simp at h
    · simp
  ended_once := by
    rw [List.countP_append, h.ended, Diagram.countP_ends_complete hd hl]
    cases l.alive <;> rfl
  ended_last := by
    refine List.pairwise_append.2 ⟨h.ended_last, Diagram.pairwise_complete hd l.name, ?_⟩
    intro s hs t ht hends
    obtain ⟨n, hn, rfl⟩ := List.mem_map.1 ht
    rw [Bool.eq_false_iff, ne_eq, Statement.references_iff]
    intro hmem
    obtain rfl : l.name = n := by simpa using hmem
    exact h.not_mem_liveNames hd hl hs hends hn
  created_once := by
    rw [List.countP_append, h.created, List.countP_map, List.countP_eq_zero.2 (by simp)]
    split <;> simp
  balanced before hb := by
    -- a prefix is one of the log, or it goes on with completions, which end no bars
    rcases List.prefix_or_prefix_of_prefix hb (List.prefix_append d.log _) with hb' | ⟨rest, rfl⟩
    · exact h.balanced before hb'
    · have hcount : rest.count (.deactivate l.name) = 0 := by
        refine List.count_eq_zero.2 fun hmem => ?_
        obtain ⟨n, _, he⟩ :=
          List.mem_map.1 (((List.prefix_append_right_inj _).1 hb).subset hmem)
        cases congrArg Statement.effect he
      have hlog := h.balanced d.log (List.prefix_refl _)
      rw [List.count_append, List.count_append]
      omega

end Lifeline

namespace Diagram

variable {d : Diagram}

/-- Each participant of a reachable diagram has lived as its log tells. -/
theorem Reachable.lived (h : d.Reachable) {l : Lifeline} (hl : l ∈ d.lifelines) :
    l.Lived d.log := by
  refine (h.lifeline_induct (motive := fun l log => l.Recorded log ∧ l.Lived log) ?_ ?_ hl).2
  · exact fun _ _ p hn => ⟨Lifeline.recorded_declaration p hn, Lifeline.lived_declaration p hn⟩
  · intro d s l hd hs hl h
    have hr := h.1.write hd hs hl
    exact ⟨hr, h.2.write hd hs hl hr⟩

end Diagram

namespace Op

variable {ops : List Op} {replies : List (Except DrawError Reply)} {d : Diagram} {doc : Document}

/-- In a finished document every participant has a lifecycle, and every other name is
    one that an operation has answered. -/
theorem lifecycles_of_finish (h : runAll ops .empty = (replies, d)) (hdoc : d.finish = .ok doc) :
    (∀ l ∈ d.lifelines, Lifecycle l.name doc.statements) ∧
      ∀ s ∈ doc.statements, ∀ n, s.references n = true →
        (∃ l ∈ d.lifelines, l.name = n) ∨ .ok (.name n) ∈ replies := by
  have hreach : d.Reachable := ⟨ops, by rw [h]⟩
  have hd := hreach.named
  have hnames : (runAll ops .empty).2.Accounted (answered (runAll ops .empty).1) :=
    Diagram.accounted_empty.runAll Diagram.named_empty
  rw [h] at hnames
  rw [Diagram.finish] at hdoc
  split at hdoc <;> cases hdoc
  -- what is not in the log completes a participant that is alive
  refine ⟨fun l hl => (hreach.lived hl).finish hd hl, ?_⟩
  intro s hs n hn
  rw [Statement.references_iff] at hn
  rcases List.mem_append.1 hs with hs | hs
  · rw [← mem_answered_iff]
    exact (hnames.log s hs n hn).imp_left List.mem_map.1
  · obtain ⟨m, hm, rfl⟩ := List.mem_map.1 hs
    obtain rfl : n = m := by simpa using hn
    obtain ⟨l, hl, rfl⟩ := List.mem_map.1 hm
    exact .inl ⟨l, List.mem_of_mem_filter hl, rfl⟩

/-- Two objects in a frame, where the second is called and destroys itself. -/
def framedCall : List Op :=
  [addParticipant (.object "a"), addParticipant .placeholder, beginFrame ⟨0⟩ "loop" 0,
    createInstance ⟨0⟩ ⟨1⟩ "b" none, callMethod ⟨0⟩ ⟨1⟩ { request := "r", response := some "x" },
    destroyInstance ⟨1⟩ ⟨1⟩ none, endFrame ⟨0⟩ (NameKind.frame.name 2) 0]

/-- An object that is called within a frame has a lifecycle in the finished document. -/
theorem lifecycle_of_framedCall :
    ∃ doc, (runAll framedCall .empty).2.finish = .ok doc ∧
      Lifecycle (NameKind.participant.name 1) doc.statements := by
  have ran : runAll framedCall .empty = (_, (runAll framedCall .empty).2) := rfl
  exact ⟨_, rfl, (lifecycles_of_finish ran rfl).1 _ (List.mem_cons_of_mem _ List.mem_cons_self)⟩

end Op

end Lifelines
