import Lifelines.Proofs.Operation

/-!
# Reachable diagrams

A diagram is drawn by carrying out operations one after the other from the empty
diagram; some of them may be refused on the way. Each operation only writes
admissible statements, so a property that statements keep is one of all the
diagrams that are reached (`Diagram.Reachable.induct`).

* `Op.runAll`: what operations answer in turn, and the diagram after them;
* `Op.transcript`: operations, each with its answer;
* `Diagram.Reachable`: the diagrams that operations lead to;
* `Op.appends_or_refuses`: an operation appends to the log what its script says,
  and if it is refused it changes nothing at all.
-/

namespace Lifelines

/-- What some operations answer in turn, and the diagram after them. -/
def Op.runAll : List Op → Diagram → List (Except DrawError Reply) × Diagram
  | [], d => ([], d)
  | op :: ops, d =>
    let (reply, d') := op.run d
    let (replies, d'') := runAll ops d'
    (reply :: replies, d'')

namespace Op

/-- Some operations, each with what it is answered. -/
def transcript (ops : List Op) (d : Diagram) : List (Op × Except DrawError Reply) :=
  ops.zip (runAll ops d).1

/-- The first answer is given on the diagram that there is, the others on the one after. -/
theorem transcript_cons (op : Op) (ops : List Op) (d : Diagram) :
    transcript (op :: ops) d = (op, (op.run d).1) :: transcript ops (op.run d).2 := rfl

/-- More operations are carried out on the diagram after those before. -/
theorem runAll_append (ops more : List Op) (d : Diagram) :
    (runAll (ops ++ more) d).2 = (runAll more (runAll ops d).2).2 := by
  induction ops generalizing d with
  | nil => rfl
  | cons op ops ih => exact ih _

/-- Whatever was answered in a run was answered on the diagram that the operations before
    lead to. -/
theorem exists_of_mem_transcript {ops : List Op} {d : Diagram} {op : Op}
    {answer : Except DrawError Reply} (h : (op, answer) ∈ transcript ops d) :
    ∃ before after, ops = before ++ op :: after ∧ (op.run (runAll before d).2).1 = answer := by
  induction ops generalizing d with
  | nil => cases h
  | cons first ops ih =>
    rw [transcript_cons, List.mem_cons] at h
    rcases h with heq | h
    · obtain ⟨rfl, rfl⟩ := Prod.mk.inj heq
      exact ⟨[], ops, rfl, rfl⟩
    · obtain ⟨before, after, rfl, hanswer⟩ := ih h
      exact ⟨first :: before, after, rfl, hanswer⟩

end Op

namespace Diagram

/-- The diagrams that operations lead to from the empty diagram. -/
def Reachable (d : Diagram) : Prop :=
  ∃ ops, (Op.runAll ops empty).2 = d

variable {d : Diagram}

theorem Named.params (hd : d.Named) (params : ParamSet) : { d with params := params }.Named :=
  ⟨hd.participants, hd.distinct, hd.frames, hd.comments, hd.log⟩

section

variable {motive : Diagram → Prop}
  (write : ∀ (d : Diagram) (s : Statement), d.Named → d.Admissible s → motive d →
    motive (d.write s))
  (params : ∀ (d : Diagram) (params : ParamSet), motive d → motive { d with params := params })

include write

/-- What an admissible statement keeps, several keep, each admissible in its turn. -/
theorem writeAll_induct {ss : List Statement} (hd : d.Named) (h : d.Admits ss) (hm : motive d) :
    motive (d.writeAll ss) := by
  induction ss generalizing d with
  | nil => exact hm
  | cons s ss ih => exact ih (hd.write h.1) h.2 (write d s hd h.1 hm)

include params

/-- What statements and new parameters keep, an operation keeps. -/
theorem run_induct (op : Op) (hd : d.Named) (hm : motive d) : motive (op.run d).2 := by
  rw [Op.run_eq hd.distinct]
  cases hs : op.script d with
  | error e => exact hm
  | ok answer => exact params _ _ (writeAll_induct write hd (Op.admits_script hd.distinct hs) hm)

end

theorem Named.run (op : Op) (hd : d.Named) : (op.run d).2.Named :=
  run_induct (fun _ _ hd h _ => hd.write h) (fun _ params hd => hd.params params) op hd hd

/-- The same for the diagram that an operation is known to lead to. -/
theorem Named.of_run {op : Op} {reply : Except DrawError Reply} {d' : Diagram} (hd : d.Named)
    (h : op.run d = (reply, d')) : d'.Named := by
  have hop := hd.run op
  rwa [h] at hop

/-- After a run, names tell the elements apart as before. -/
theorem Named.runAll {ops : List Op} (hd : d.Named) : (Op.runAll ops d).2.Named := by
  induction ops generalizing d with
  | nil => exact hd
  | cons op ops ih => exact ih (hd.run op)

/-- What statements and new parameters keep, a run keeps. -/
theorem runAll_induct {motive : Diagram → Prop}
    (write : ∀ (d : Diagram) (s : Statement), d.Named → d.Admissible s → motive d →
      motive (d.write s))
    (params : ∀ (d : Diagram) (params : ParamSet), motive d → motive { d with params := params })
    (ops : List Op) (hd : d.Named) (hm : motive d) : motive (Op.runAll ops d).2 := by
  induction ops generalizing d with
  | nil => exact hm
  | cons op ops ih => exact ih (hd.run op) (run_induct write params op hd hm)

theorem Reachable.named (h : d.Reachable) : d.Named := by
  obtain ⟨ops, rfl⟩ := h
  exact named_empty.runAll

/-- A property of the empty diagram that admissible statements and new parameters
    keep is one of every reachable diagram. -/
theorem Reachable.induct {motive : Diagram → Prop} (init : motive empty)
    (write : ∀ (d : Diagram) (s : Statement), d.Named → d.Admissible s → motive d →
      motive (d.write s))
    (params : ∀ (d : Diagram) (params : ParamSet), motive d → motive { d with params := params })
    (h : d.Reachable) : motive d := by
  obtain ⟨ops, rfl⟩ := h
  exact runAll_induct write params ops named_empty init

/-- A property of a lifeline and the log is one of every lifeline of a reachable
    diagram if it holds when the participant is declared under a name that the log
    does not mention, and admissible statements keep it. -/
theorem Reachable.lifeline_induct {motive : Lifeline → List Statement → Prop}
    (declare : ∀ (log : List Statement) (n : String) (p : Participant),
      (∀ t ∈ log, n ∉ t.names) → motive (p.lifeline n) (log ++ [p.declaration n]))
    (write : ∀ (d : Diagram) (s : Statement) (l : Lifeline), d.Named → d.Admissible s →
      l ∈ d.lifelines → motive l d.log → motive (l.after s.effect) (d.log ++ [s]))
    (h : d.Reachable) {l : Lifeline} (hl : l ∈ d.lifelines) : motive l d.log := by
  suffices hall : ∀ l ∈ d.lifelines, motive l d.log from hall l hl
  refine h.induct (motive := fun d => ∀ l ∈ d.lifelines, motive l d.log) ?_ ?_ ?_
  · intro l hl
    exact absurd hl List.not_mem_nil
  · intro d s hd hs ih l' hl'
    rw [lifelines_write, List.mem_append, List.mem_map] at hl'
    rcases hl' with ⟨l, hl, rfl⟩ | hl'
    · exact write d s l hd hs hl (ih l hl)
    · -- only a declaration adds a lifeline
      cases he : s.effect with
      | declare n kind label =>
        obtain ⟨rfl, p, rfl, rfl, rfl⟩ := hs.eq_declaration he
        rw [he] at hl'
        obtain rfl := List.mem_singleton.1 hl'
        exact declare d.log _ p fun t ht => hd.fresh ht .participant
      | _ => simp [he] at hl'
  · exact fun _ _ ih => ih

end Diagram

/-! ### Refused operations -/

namespace Op

/-- The statements that an operation writes; a refused one writes none. -/
def written (op : Op) (d : Diagram) : List Statement :=
  match op.script d with
  | .ok (_, ss) => ss
  | .error _ => []

/-- An operation adds exactly what its script says to the log. One that is refused leaves the whole
    diagram as it was, and asking for a depth always does. -/
theorem appends_or_refuses {d : Diagram} (h : d.Reachable) (op : Op) :
    (op.run d).2.log = d.log ++ op.written d ∧
      (∀ e, (op.run d).1 = .error e → (op.run d).2 = d) ∧
      ∀ p, (Draw.exec (Draw.depth p) d).2 = d := by
  refine ⟨?_, ?_, ?_⟩
  · -- what is written is empty for a script that refuses
    rw [run_eq h.named.distinct, written]
    cases op.script d with
    | error e => simp
    | ok answer => exact Diagram.log_writeAll _ _
  · intro e he
    rw [run_eq h.named.distinct] at he ⊢
    cases hs : op.script d with
    | error e' => rfl
    | ok answer => simp [hs] at he
  · intro p
    rw [Draw.depth, Draw.exec_bind, Draw.exec_live]
    cases d.liveLifeline p <;> rfl

/-- A diagram in which one object has destroyed another. -/
def destruction : List Op :=
  [addParticipant (.object "a"), addParticipant (.object "b"),
    destroyInstance ⟨0⟩ ⟨1⟩ (some .async)]

/-- A call to the destroyed object is refused before anything is drawn of it. -/
theorem call_to_destroyed_refused :
    let d := (runAll destruction .empty).2
    let call := callMethod ⟨0⟩ ⟨1⟩ { request := "r", response := some "x" }
    d.Reachable ∧
      (call.run d).1 = .error (.danglingParticipant (NameKind.participant.name 1)) ∧
      (call.run d).2 = d :=
  ⟨⟨_, rfl⟩, rfl, (appends_or_refuses ⟨_, rfl⟩ _).2.1 _ rfl⟩

end Op

end Lifelines
