import Lifelines.Proofs.Matching
import Lifelines.Proofs.Replay

/-!
# What is over stays over

Handles and names outlive what they stand for: a caller may hand in one of a
participant that is gone, or of a frame that is closed, at any later time. It is
refused then, since nothing that has ended starts again and no name is given
twice. What a caller may rely on lasts in the same way: a participant keeps its
place, its name and its kind, a comment can be connected to for ever, and the
label that a creating message gives is the last one.

* `Lifeline.Persists`: what a participant keeps from one diagram to a later one;
* `Diagram.Lasting`: what is settled in one diagram, as a later one sees it;
* `Diagram.Honours`: what earlier answers have settled;
* `Op.relabels`: how often the label of a participant changes in a run;
* `Op.over_stays_over`: whatever is settled at some point of a run is settled for
  the rest of it.
-/

namespace Lifelines

/-- What a participant keeps for good. -/
structure Lifeline.Persists (l l' : Lifeline) : Prop where
  name : l'.name = l.name
  kind : l'.kind = l.kind
  /-- Whoever is gone stays gone, and nothing else changes either. -/
  gone : l.alive = false → l' = l
  /-- Whoever was created keeps the label. -/
  created : l.created = true → l'.created = true ∧ l'.label = l.label
  /-- Only a message that creates a participant gives it another label. -/
  relabelled : l'.label ≠ l.label → l'.created = true

/-- The participants that an operation takes, the sender before the target. -/
def Op.handles : Op → List Handle
  | beginFrame p .. | endFrame p .. | comment p _ | connectToComment p _ | lineConstraint p ..
  | activate p | deactivate p | delete p => [p]
  | message sender target _ | returnMessage sender target _ | createInstance sender target ..
  | destroyInstance sender target _ | pushMethod sender target .. | popMethod sender target ..
  | callMethod sender target _ => [sender, target]
  | addParticipant _ | setMode _ | step _ | objectConstraint _ | setParam .. => []

/-- Whether a participant has one label in a diagram and another one in the next. -/
def Diagram.relabels (d d' : Diagram) (p : Handle) : Bool :=
  match d.lifelines[p.index]?, d'.lifelines[p.index]? with
  | some l, some l' => l'.label != l.label
  | _, _ => false

/-- How often the label of a participant changes while operations are carried out. -/
def Op.relabels (p : Handle) : List Op → Diagram → Nat
  | [], _ => 0
  | op :: ops, d => (d.relabels (op.run d).2 p).toNat + relabels p ops (op.run d).2

/-- What is settled in a diagram, as a later one sees it. -/
structure Diagram.Lasting (d d' : Diagram) : Prop where
  participants : ∀ (p : Handle) (l : Lifeline), d.lifelines[p.index]? = some l →
    ∃ l', d'.lifelines[p.index]? = some l' ∧ l.Persists l'
  gone : ∀ (p : Handle) (l : Lifeline), d.lifelines[p.index]? = some l → l.alive = false →
    (∀ op : Op, p ∈ op.handles → ∃ e, op.run d' = (.error e, d')) ∧
      ∃ e, Draw.exec (Draw.depth p) d' = (.error e, d')
  created : ∀ (p : Handle) (l : Lifeline), d.lifelines[p.index]? = some l → l.created = true →
    ∀ sender label style, ∃ e,
      (Op.createInstance sender p label style).run d' = (.error e, d')
  closed : ∀ right n, .endFrame right n ∈ d.log → n ∉ d'.openFrames ∧
    ∀ p steps, d'.isLive p = true →
      (Op.endFrame p n steps).run d' = (.error (.unmatchedFrame n), d')
  comments : ∀ n ∈ d.comments, ∀ p, d'.isLive p = true →
    ∃ d'', (Op.connectToComment p n).run d' = (.ok .done, d'')

/-- What a diagram owes to those who have had some answers: nobody who was destroyed or deleted
    is drawn on, nobody who was created is created again or loses the label, no frame that was
    closed is closed again, and every comment can be connected to. -/
structure Diagram.Honours (d : Diagram) (answers : List (Op × Except DrawError Reply)) :
    Prop where
  deleted : ∀ p reply, (.delete p, .ok reply) ∈ answers →
    ∀ op : Op, p ∈ op.handles → ∃ e, op.run d = (.error e, d)
  destroyed : ∀ sender p style reply, (.destroyInstance sender p style, .ok reply) ∈ answers →
    ∀ op : Op, p ∈ op.handles → ∃ e, op.run d = (.error e, d)
  created : ∀ sender p label style reply,
    (.createInstance sender p label style, .ok reply) ∈ answers →
      (∃ l, d.lifelines[p.index]? = some l ∧ l.label = some label) ∧
        ∀ sender' label' style', ∃ e,
          (Op.createInstance sender' p label' style').run d = (.error e, d)
  closed : ∀ p n steps reply, (.endFrame p n steps, .ok reply) ∈ answers → n ∉ d.openFrames ∧
    ∀ p' steps', d.isLive p' = true →
      (Op.endFrame p' n steps').run d = (.error (.unmatchedFrame n), d)
  comments : ∀ p c n, (.comment p c, .ok (.name n)) ∈ answers → ∀ p', d.isLive p' = true →
    ∃ d', (Op.connectToComment p' n).run d = (.ok .done, d')

/-! ### Participants -/

namespace Lifeline

/-- A participant keeps all at once. -/
theorem Persists.refl (l : Lifeline) : l.Persists l where
  name := rfl
  kind := rfl
  gone _ := rfl
  created h := ⟨h, rfl⟩
  relabelled h := absurd rfl h

/-- What is kept for some time and then for some more is kept all the time. -/
theorem Persists.trans {l l' l'' : Lifeline} (h : l.Persists l') (h' : l'.Persists l'') :
    l.Persists l'' where
  name := h'.name.trans h.name
  kind := h'.kind.trans h.kind
  gone ha := by
    obtain rfl := h.gone ha
    exact h'.gone ha
  created hc := by
    obtain ⟨hc', hl⟩ := h.created hc
    exact ⟨(h'.created hc').1, (h'.created hc').2.trans hl⟩
  relabelled hne := by
    by_cases hl : l'.label = l.label
    · exact h'.relabelled (hl ▸ hne)
    · exact (h'.created (h.relabelled hl)).1

/-- An admissible statement changes nothing about a participant that is to persist. -/
theorem persists_after {d : Diagram} {s : Statement} {l : Lifeline} (hd : d.Named)
    (hs : d.Admissible s) (hl : l ∈ d.lifelines) : l.Persists (l.after s.effect) where
  name := l.name_after _
  kind := l.kind_after _
  gone ha := by
    -- an effect on a lifeline is admissible only for one that is alive
    have hother : ∀ l', d.Alive l' → l.name ≠ l'.name := by
      rintro l' hl' hn
      rw [hd.eq_of_name_eq hl hl'.mem hn, hl'.alive] at ha
      cases ha
    have haccepts := hs.accepts
    cases he : s.effect with
    | activate n | leave n =>
      rw [he] at haccepts
      obtain ⟨l', hl', rfl⟩ := haccepts
      exact if_neg (hother l' hl')
    | deactivate n | create n label =>
      rw [he] at haccepts
      obtain ⟨l', hl', rfl, -⟩ := haccepts
      exact if_neg (hother l' hl')
    | _ => rfl
  created hc := by
    refine ⟨created_after.2 (.inl hc), label_after_of_ne fun label he => ?_⟩
    rw [hs.not_created hd hl he] at hc
    cases hc
  relabelled hne := by
    rw [created_after]
    by_contra hnot
    exact hne (label_after_of_ne fun label he => hnot (.inr ⟨label, he⟩))

end Lifeline

namespace Diagram

variable {d d' : Diagram}

/-- Each participant persists, and the log is continued. -/
structure Continues (d d' : Diagram) : Prop where
  participants : ∀ (i : Nat) (l : Lifeline), d.lifelines[i]? = some l →
    ∃ l', d'.lifelines[i]? = some l' ∧ l.Persists l'
  log : d.log <+: d'.log

theorem Continues.refl (d : Diagram) : d.Continues d where
  participants _ l hl := ⟨l, hl, .refl l⟩
  log := List.prefix_refl _

/-- An admissible statement continues a diagram. -/
theorem Continues.write {s : Statement} (h : d.Continues d') (hd' : d'.Named)
    (hs : d'.Admissible s) : d.Continues (d'.write s) where
  participants i l hl := by
    obtain ⟨l', hl', hp⟩ := h.participants i l hl
    have hafter := Lifeline.persists_after hd' hs (List.mem_of_getElem? hl')
    refine ⟨l'.after s.effect, ?_, hp.trans hafter⟩
    rw [lifelines_write, List.getElem?_append_left, List.getElem?_map, hl']
    · rfl
    · rw [List.length_map]
      exact (List.getElem?_eq_some_iff.1 hl').1
  log := h.log.trans (List.prefix_append _ _)

/-- A participant that is alive has a record in the log of a later diagram. -/
theorem Continues.exists_recorded (h : d.Continues d') (hd' : d'.Reachable) {p : Handle}
    {l : Lifeline} (hl : d.liveLifeline p = .ok l) :
    ∃ l', d'.lifelines[p.index]? = some l' ∧ l'.name = l.name ∧ l'.Recorded d'.log := by
  obtain ⟨l', hl', hp⟩ := h.participants p.index l (liveLifeline_eq_ok_iff.1 hl).1
  exact ⟨l', hl', hp.name, hd'.recorded (List.mem_of_getElem? hl')⟩

theorem continues_runAll (hd : d.Named) (ops : List Op) : d.Continues (Op.runAll ops d).2 :=
  runAll_induct (motive := d.Continues) (fun _ _ hd' hs h => h.write hd' hs)
    (fun _ _ h => ⟨h.participants, h.log⟩) ops hd (.refl d)

end Diagram

/-! ### Refused operations -/

namespace Op

variable {d : Diagram} {op : Op} {p : Handle}

/-- An operation that is not refused takes participants that are alive. -/
theorem live_of_script {reply : Reply} {ss : List Statement}
    (h : op.script d = .ok (reply, ss)) (hp : p ∈ op.handles) :
    ∃ l, d.liveLifeline p = .ok l := by
  cases op with
  | addParticipant | setMode | step | objectConstraint | setParam => cases hp
  | beginFrame | endFrame | comment | connectToComment | lineConstraint | activate | deactivate
  | delete =>
    obtain ⟨l, hl, -⟩ := exists_of_bind_eq_ok h
    rw [List.mem_singleton.1 hp]
    exact ⟨l, hl⟩
  | message sender target | returnMessage sender target | createInstance sender target
  | destroyInstance sender target | pushMethod sender target | popMethod sender target
  | callMethod sender target =>
    obtain ⟨⟨s, t⟩, hends, -⟩ := exists_of_bind_eq_ok h
    obtain ⟨hs, ht⟩ := Diagram.liveEnds_eq_ok_iff.1 hends
    obtain rfl | rfl : p = sender ∨ p = target := by simpa [handles] using hp
    · exact ⟨s, hs⟩
    · exact ⟨t, ht⟩

section

variable (hd : d.Named)

include hd

/-- An operation is refused if some participant that it takes is not alive. -/
theorem refused_of_not_live (hp : p ∈ op.handles) (hlive : d.isLive p = false) :
    ∃ e, op.run d = (.error e, d) := by
  cases hs : op.script d with
  | error e => exact ⟨e, run_of_script_error hd.distinct hs⟩
  | ok answer =>
    rw [Diagram.isLive_iff.2 (live_of_script hs hp)] at hlive
    cases hlive

/-- Nobody is created a second time. -/
theorem createInstance_refused {l : Lifeline} (hl : d.lifelines[p.index]? = some l)
    (hc : l.created = true) (sender : Handle) (label : String) (style : Option SyncMode) :
    ∃ e, (createInstance sender p label style).run d = (.error e, d) := by
  cases hs : (createInstance sender p label style).script d with
  | error e => exact ⟨e, run_of_script_error hd.distinct hs⟩
  | ok answer =>
    obtain ⟨⟨s, t⟩, hends, hrest⟩ := exists_of_bind_eq_ok hs
    obtain ⟨ht, -⟩ := Diagram.liveLifeline_eq_ok_iff.1 (Diagram.liveEnds_eq_ok_iff.1 hends).2
    obtain rfl := Option.some.inj (hl.symm.trans ht)
    dsimp only at hrest
    rw [if_pos hc] at hrest
    cases hrest

/-- A frame that is not open cannot be closed. -/
theorem endFrame_refused (hp : d.isLive p = true) {n : String} (hn : n ∉ d.openFrames)
    (steps : Nat) : (endFrame p n steps).run d = (.error (.unmatchedFrame n), d) := by
  obtain ⟨l, hl⟩ := Diagram.isLive_iff.1 hp
  refine run_of_script_error hd.distinct ?_
  rw [script, hl]
  exact if_neg fun h => hn (List.contains_iff_mem.1 h)

/-- A comment that is there can be connected to. -/
theorem run_connectToComment (hp : d.isLive p = true) {n : String} (hn : n ∈ d.comments) :
    ∃ d', (connectToComment p n).run d = (.ok .done, d') := by
  obtain ⟨l, hl⟩ := Diagram.isLive_iff.1 hp
  have hscript : (connectToComment p n).script d =
      .ok (.done, [.connectToComment l.name n]) := by
    rw [script, hl]
    exact if_pos (List.contains_iff_mem.2 hn)
  exact ⟨_, run_of_script hd.distinct rfl hscript⟩

end

/-- Nobody who is not alive is asked for a depth. -/
theorem depth_refused (hlive : d.isLive p = false) :
    ∃ e, Draw.exec (Draw.depth p) d = (.error e, d) := by
  rw [Draw.depth, Draw.exec_bind, Draw.exec_live]
  cases hl : d.liveLifeline p with
  | error e => exact ⟨e, rfl⟩
  | ok l =>
    rw [Diagram.isLive_iff.2 ⟨l, hl⟩] at hlive
    cases hlive

end Op

/-! ### Whole runs -/

namespace Diagram

variable {d d' : Diagram}

/-- What is settled in a diagram lasts in one that continues it. -/
theorem Continues.lasting (h : d.Continues d') (hd : d.Reachable) (hd' : d'.Reachable) :
    d.Lasting d' where
  participants p := h.participants p.index
  gone p l hl ha := by
    obtain ⟨l', hl', hp⟩ := h.participants p.index l hl
    have hlive : d'.isLive p = false := by simp [isLive, hl', hp.gone ha, ha]
    exact ⟨fun op hop => Op.refused_of_not_live hd'.named hop hlive, Op.depth_refused hlive⟩
  created p l hl hc := by
    obtain ⟨l', hl', hp⟩ := h.participants p.index l hl
    exact Op.createInstance_refused hd'.named hl' (hp.created hc).1
  closed right n hn := by
    have hended : n ∈ Statement.ended d'.log :=
      List.mem_filterMap.2 ⟨_, h.log.subset hn, rfl⟩
    have hclosed : n ∉ d'.openFrames := by
      rw [hd'.matching.openFrames]
      simp [hended]
    exact ⟨hclosed, fun p steps hp => Op.endFrame_refused hd'.named hp hclosed steps⟩
  comments n hn p hp := by
    refine Op.run_connectToComment hd'.named hp ?_
    rw [hd.numbered.comments, NameKind.mem_select_iff] at hn
    rw [hd'.numbered.comments, NameKind.mem_select_iff]
    exact (h.log.filterMap _).subset hn

end Diagram

namespace Op

variable {d : Diagram} {p : Handle}

/-- Whoever was created keeps the label. -/
theorem relabels_eq_zero (hd : d.Named) {l : Lifeline} (hl : d.lifelines[p.index]? = some l)
    (hc : l.created = true) (ops : List Op) : relabels p ops d = 0 := by
  induction ops generalizing d l with
  | nil => rfl
  | cons op ops ih =>
    -- the next operation keeps the mark of creation, and with it the label
    obtain ⟨l', hl', hp⟩ := (Diagram.continues_runAll hd [op]).participants p.index l hl
    obtain ⟨hc', hlabel⟩ := hp.created hc
    have hsame : d.relabels (op.run d).2 p = false := by
      rw [Diagram.relabels, hl, show (op.run d).2.lifelines[p.index]? = some l' from hl']
      simp [hlabel]
    rw [relabels, hsame, ih (hd.run op) hl' hc']
    rfl

/-- A label changes at most once, as the message that changes it creates the participant. -/
theorem relabels_le_one (hd : d.Named) (p : Handle) (ops : List Op) : relabels p ops d ≤ 1 := by
  induction ops generalizing d with
  | nil => exact Nat.zero_le 1
  | cons op ops ih =>
    rw [relabels]
    cases hchanged : d.relabels (op.run d).2 p with
    | false => simpa using ih (hd.run op)
    | true =>
      -- a label that has changed is the one that a creating message gave
      rw [Diagram.relabels] at hchanged
      split at hchanged
      · next l l' hl hl' =>
        obtain ⟨l'', hl'', hp⟩ := (Diagram.continues_runAll hd [op]).participants p.index l hl
        obtain rfl := Option.some.inj (hl'.symm.trans hl'')
        rw [relabels_eq_zero (hd.run op) hl' (hp.relabelled (by simpa using hchanged))]
        exact Nat.le_refl 1
      · cases hchanged

/-- Whatever was answered in a run was answered by a script, whose statements are in the log
    right after it; and what is settled then lasts to the end, whatever comes after the run. -/
theorem exists_script_of_mem_transcript {ops : List Op} {op : Op} {reply : Reply}
    (h : (op, .ok reply) ∈ transcript ops .empty) (more : List Op) :
    ∃ (d₀ d₁ : Diagram) (ss : List Statement), op.script d₀ = .ok (reply, ss) ∧
      d₀.Continues d₁ ∧ ss ⊆ d₁.log ∧ d₁.Reachable ∧
        d₁.Lasting (runAll more (runAll ops .empty).2).2 := by
  obtain ⟨before, after, rfl, hreply⟩ := exists_of_mem_transcript h
  obtain ⟨d₀, hd₀⟩ : ∃ d₀, (runAll before .empty).2 = d₀ := ⟨_, rfl⟩
  have h₀ : d₀.Reachable := ⟨before, hd₀⟩
  rw [hd₀] at hreply
  have h₁ : (op.run d₀).2.Reachable := ⟨before ++ [op], by rw [runAll_append, hd₀]; rfl⟩
  -- the rest of the run, and what follows it, goes on from where `op` left off
  have hend : (runAll more (runAll (before ++ op :: after) .empty).2).2 =
      (runAll (after ++ more) (op.run d₀).2).2 := by
    rw [runAll_append, hd₀, runAll_append after more]
    rfl
  obtain ⟨ss, hscript, hd₁⟩ := script_of_run h₀.named.distinct (Prod.ext hreply rfl)
  refine ⟨d₀, (op.run d₀).2, ss, hscript, Diagram.continues_runAll h₀.named [op], ?_, h₁, ?_⟩
  · have hlog : (op.run d₀).2.log = d₀.log ++ ss :=
      (congrArg Diagram.log hd₁).trans (Diagram.log_writeAll d₀ ss)
    rw [hlog]
    exact List.subset_append_right _ _
  · rw [hend]
    exact (Diagram.continues_runAll h₁.named _).lasting h₁
      ⟨before ++ op :: (after ++ more), by rw [runAll_append, hd₀]; rfl⟩

/-- What was answered in a run is honoured ever after. -/
theorem honours_transcript (ops more : List Op) :
    (runAll more (runAll ops .empty).2).2.Honours (transcript ops .empty) where
  deleted p reply hanswer := by
    obtain ⟨d₀, d₁, ss, hscript, hcont, hlog, h₁, lasting⟩ :=
      exists_script_of_mem_transcript hanswer more
    obtain ⟨l, hl, hscript⟩ := exists_of_bind_eq_ok hscript
    cases hscript
    obtain ⟨l₁, hl₁, hname, hrecorded⟩ := hcont.exists_recorded h₁ hl
    -- once the log says so the participant is gone, whatever has happened before
    have hmem : .delete l₁.name ∈ d₁.log := hname ▸ hlog List.mem_cons_self
    exact (lasting.gone p l₁ hl₁ (hrecorded.gone.2 (.inl hmem))).1
  destroyed sender p style reply hanswer := by
    obtain ⟨d₀, d₁, ss, hscript, hcont, hlog, h₁, lasting⟩ :=
      exists_script_of_mem_transcript hanswer more
    obtain ⟨⟨s, t⟩, hends, hscript⟩ := exists_of_bind_eq_ok hscript
    cases hscript
    obtain ⟨-, ht⟩ := Diagram.liveEnds_eq_ok_iff.1 hends
    obtain ⟨l₁, hl₁, hname, hrecorded⟩ := hcont.exists_recorded h₁ ht
    have hmem : .destroyMessage s.name l₁.name ∈ d₁.log :=
      hname ▸ hlog (SyncMode.mem_around _ _ _)
    exact (lasting.gone p l₁ hl₁ (hrecorded.gone.2 (.inr ⟨_, hmem⟩))).1
  created sender p label style reply hanswer := by
    obtain ⟨d₀, d₁, ss, hscript, hcont, hlog, h₁, lasting⟩ :=
      exists_script_of_mem_transcript hanswer more
    obtain ⟨⟨s, t⟩, hends, hscript⟩ := exists_of_bind_eq_ok hscript
    dsimp only at hscript
    split at hscript <;> cases hscript
    obtain ⟨-, ht⟩ := Diagram.liveEnds_eq_ok_iff.1 hends
    obtain ⟨l₁, hl₁, hname, hrecorded⟩ := hcont.exists_recorded h₁ ht
    have hmem : .createMessage s.name l₁.name label ∈ d₁.log :=
      hname ▸ hlog (SyncMode.mem_around _ _ _)
    have hc := hrecorded.created.2 ⟨_, _, hmem⟩
    obtain ⟨l', hl', hp'⟩ := lasting.participants p l₁ hl₁
    exact ⟨⟨l', hl', (hp'.created hc).2.trans (hrecorded.label _ _ hmem)⟩,
      lasting.created p l₁ hl₁ hc⟩
  closed p n steps reply hanswer := by
    obtain ⟨d₀, d₁, ss, hscript, -, hlog, -, lasting⟩ :=
      exists_script_of_mem_transcript hanswer more
    obtain ⟨l, -, hscript⟩ := exists_of_bind_eq_ok hscript
    split at hscript <;> cases hscript
    exact lasting.closed l.name n (hlog (by simp))
  comments p c n hanswer := by
    obtain ⟨d₀, d₁, ss, hscript, -, hlog, h₁, lasting⟩ :=
      exists_script_of_mem_transcript hanswer more
    obtain ⟨l, -, hscript⟩ := exists_of_bind_eq_ok hscript
    cases hscript
    refine lasting.comments _ ?_
    rw [h₁.numbered.comments, NameKind.mem_select_iff]
    exact List.mem_filterMap.2 ⟨_, hlog List.mem_cons_self, rfl⟩

/-- Whatever is settled at some point of a run is settled for the rest of it, the label of a
    participant changes at most once in all, and what was answered before that point is
    honoured after it. -/
theorem over_stays_over (ops more : List Op) :
    let d := (runAll ops .empty).2
    let d' := (runAll more d).2
    d.Lasting d' ∧ (∀ p, relabels p (ops ++ more) .empty ≤ 1) ∧
      d'.Honours (transcript ops .empty) := by
  intro d d'
  have hd : d.Reachable := ⟨ops, rfl⟩
  have hd' : d'.Reachable := ⟨ops ++ more, runAll_append ops more .empty⟩
  exact ⟨(Diagram.continues_runAll hd.named more).lasting hd hd',
    fun p => relabels_le_one Diagram.named_empty p _, honours_transcript ops more⟩

/-- A frame that is closed, a comment, an object that is created and destroyed, and one that
    is created. -/
def farewell : List Op :=
  [addParticipant (.object "a"), addParticipant .placeholder, addParticipant .placeholder,
    beginFrame ⟨0⟩ "loop" 0, endFrame ⟨0⟩ (NameKind.frame.name 3) 0, comment ⟨0⟩ { text := "b" },
    createInstance ⟨0⟩ ⟨1⟩ "c" none, destroyInstance ⟨0⟩ ⟨1⟩ none,
    createInstance ⟨0⟩ ⟨2⟩ "e" none]

/-- Another object, and a frame that it opens. -/
def afterwards : List Op :=
  [addParticipant (.object "d"), beginFrame ⟨3⟩ "alt" 1]

/-- The object that is created and not destroyed is alive, but it cannot be created again. -/
theorem farewell_stays_over :
    let d := (runAll afterwards (runAll farewell .empty).2).2
    (∃ e, (message ⟨3⟩ ⟨1⟩ "m").run d = (.error e, d)) ∧
      (endFrame ⟨3⟩ (NameKind.frame.name 3) 0).run d =
        (.error (.unmatchedFrame (NameKind.frame.name 3)), d) ∧
      (∃ d', (connectToComment ⟨3⟩ (NameKind.comment.name 4)).run d = (.ok .done, d')) ∧
      d.isLive ⟨2⟩ = true ∧ (∃ e, (createInstance ⟨3⟩ ⟨2⟩ "f" none).run d = (.error e, d)) ∧
      (∃ l, d.lifelines[2]? = some l ∧ l.label = some "e") ∧
      relabels ⟨2⟩ (farewell ++ afterwards) .empty ≤ 1 := by
  obtain ⟨lasting, once, honours⟩ := over_stays_over farewell afterwards
  have hcreated : (createInstance ⟨0⟩ ⟨2⟩ "e" none, .ok .done) ∈ transcript farewell .empty :=
    List.mem_of_getElem? (i := 8) rfl
  have hnoted : (comment ⟨0⟩ { text := "b" }, .ok (.name (NameKind.comment.name 4))) ∈
      transcript farewell .empty := List.mem_of_getElem? (i := 5) rfl
  obtain ⟨label, refused⟩ := honours.created _ _ _ _ _ hcreated
  refine ⟨(lasting.gone ⟨1⟩ _ rfl rfl).1 _ (by simp [handles]), ?_,
    honours.comments _ _ _ hnoted ⟨3⟩ rfl, rfl, refused ⟨3⟩ "f" none, label, once ⟨2⟩⟩
  refine (lasting.closed (NameKind.participant.name 0) _ ?_).2 ⟨3⟩ 0 rfl
  exact List.mem_of_getElem? (i := 4) rfl

end Op

end Lifelines
