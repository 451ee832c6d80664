import Lifelines.Proofs.Introduction

/-!
# Names that operations answer

Participants are handed out as handles, frames and comments by their names. So
whatever a log refers to is a participant of the diagram, or an operation has
answered its name.

* `Op.attached_script`: an operation answers the name of what it attaches;
* `Diagram.Accounted`: every name in the log is a participant's or one of those
  that were answered (`Diagram.Accounted.runAll`).
-/

namespace Lifelines

/-- The frame or the comment that a change adds. -/
def Effect.attached? : Effect → Option String
  | .openFrame frame => some frame
  | .note comment => some comment
  | _ => Option.none

/-- The name that is answered, if the answer is one. -/
def Reply.name? : Reply → Option String
  | .name n => some n
  | _ => none

/-- The frames and comments that statements add, in order. -/
def Statement.attached (ss : List Statement) : List String :=
  ss.filterMap (·.effect.attached?)

/-- The names among some answers. -/
def Op.answered (replies : List (Except DrawError Reply)) : List String :=
  replies.filterMap (·.toOption.bind Reply.name?)

/-- A name is among the answers if some operation has answered it. -/
theorem Op.mem_answered_iff {replies : List (Except DrawError Reply)} {n : String} :
    n ∈ answered replies ↔ .ok (.name n) ∈ replies := by
  rw [answered, List.mem_filterMap]
  constructor
  · rintro ⟨reply, hmem, hn⟩
    rcases reply with e | _ | _ | m <;> cases hn
    exact hmem
  · exact fun hmem => ⟨_, hmem, rfl⟩

namespace Statement

variable {s : Statement} {ss : List Statement}

@[simp]
theorem attached_nil : attached [] = [] := rfl

@[simp]
theorem attached_cons : attached (s :: ss) = s.effect.attached?.toList ++ attached ss := by
  rw [attached, List.filterMap_cons]
  cases h : s.effect.attached? <;> simp [attached]

/-- What is attached is what is introduced, but for participants. -/
theorem attached_eq (ss : List Statement) : attached ss =
    ((introductions ss).filter (·.1 ≠ .participant)).map Prod.snd := by
  induction ss with
  | nil => rfl
  | cons s ss ih =>
    rw [attached_cons, introductions_cons, ih, List.filter_append, List.map_append]
    cases s.effect <;> rfl

end Statement

/-- An operation answers the name of the frame or the comment that it adds. -/
theorem Op.attached_script {op : Op} {d : Diagram} {reply : Reply} {ss : List Statement}
    (h : op.script d = .ok (reply, ss)) : Statement.attached ss = reply.name?.toList := by
  obtain ⟨rfl, hss⟩ := introductions_script h
  rw [Statement.attached_eq, hss]
  cases op.adds? with
  | none => rfl
  | some kind => cases kind <;> rfl

namespace Diagram

/-- Every name in the log, and every frame and comment, is a participant's or one of
    those that were answered. -/
structure Accounted (d : Diagram) (answered : List String) : Prop where
  frames : ∀ n ∈ d.openFrames, n ∈ answered
  comments : ∀ n ∈ d.comments, n ∈ answered
  log : ∀ s ∈ d.log, ∀ n ∈ s.names, n ∈ d.participantNames ∨ n ∈ answered

variable {d : Diagram} {s : Statement} {answered : List String}

theorem accounted_empty : empty.Accounted [] := by
  constructor <;> simp [empty]

theorem Accounted.params (h : d.Accounted answered) (params : ParamSet) :
    { d with params := params }.Accounted answered :=
  ⟨h.frames, h.comments, h.log⟩

/-- More answers account for no fewer names. -/
theorem Accounted.mono (h : d.Accounted answered) (more : List String) :
    d.Accounted (answered ++ more) where
  frames n hn := List.mem_append_left _ (h.frames n hn)
  comments n hn := List.mem_append_left _ (h.comments n hn)
  log s hs n hn := (h.log s hs n hn).imp_right (List.mem_append_left _)

/-- An admissible statement refers to what is there already, or to what it attaches. -/
theorem Accounted.write (h : d.Accounted answered) (hs : d.Admissible s) :
    (d.write s).Accounted (answered ++ s.effect.attached?.toList) where
  frames n hn := by
    rcases mem_openFrames_write hn with hn | he
    · exact List.mem_append_left _ (h.frames n hn)
    · simp [he, Effect.attached?]
  comments n hn := by
    rcases mem_comments_write hn with hn | he
    · exact List.mem_append_left _ (h.comments n hn)
    · simp [he, Effect.attached?]
  log t ht n hn := by
    rw [participantNames_write, List.mem_append, List.mem_append]
    rw [log_write, List.mem_append, List.mem_singleton] at ht
    rcases ht with ht | rfl
    · exact (h.log t ht n hn).imp .inl .inl
    rcases hs.known (Statement.references_iff.2 hn) with ⟨l, hl, rfl⟩ | hf | hc | hi
    · exact .inl (.inl (List.mem_map_of_mem hl.mem))
    · exact .inr (.inl (h.frames n hf))
    · exact .inr (.inl (h.comments n hc))
    · -- three effects introduce a name, and each accounts for its own
      cases he : t.effect with
      | declare | openFrame | note =>
        rw [he] at hi
        obtain rfl := Option.some.inj hi
        simp [Effect.attached?]
      | _ => simp [he, Effect.introduced?] at hi

/-- The same for several statements, each admissible in its turn. -/
theorem Accounted.writeAll {ss : List Statement} (h : d.Accounted answered) (hs : d.Admits ss) :
    (d.writeAll ss).Accounted (answered ++ Statement.attached ss) := by
  induction ss generalizing d answered with
  | nil => simpa using h
  | cons s ss ih =>
    rw [Statement.attached_cons, ← List.append_assoc]
    exact ih (h.write hs.1) hs.2

/-- Whatever an operation attaches it answers, so its answer accounts for the new names. -/
theorem Accounted.run (h : d.Accounted answered) (hd : d.Named) (op : Op) :
    (op.run d).2.Accounted (answered ++ Op.answered [(op.run d).1]) := by
  rw [Op.run_eq hd.distinct]
  cases hs : op.script d with
  | error e => exact h.mono _
  | ok answer =>
    have hw := (h.writeAll (Op.admits_script hd.distinct hs)).params (op.newParams d.params)
    rw [Op.attached_script hs] at hw
    cases hr : answer.1.name? <;> simpa [Op.answered, Except.toOption, hr] using hw

/-- The answers of a run account for all names in the log. -/
theorem Accounted.runAll {ops : List Op} (h : d.Accounted answered) (hd : d.Named) :
    (Op.runAll ops d).2.Accounted (answered ++ Op.answered (Op.runAll ops d).1) := by
  induction ops generalizing d answered with
  | nil => simpa [Op.runAll, Op.answered] using h
  | cons op ops ih =>
    have hrest := ih (h.run hd op) (hd.run op)
    rw [List.append_assoc, Op.answered, Op.answered, ← List.filterMap_append] at hrest
    exact hrest

end Diagram

end Lifelines
