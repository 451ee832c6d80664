import Lifelines.Proofs.Interleaving
import Lifelines.Proofs.Lifecycle
import Lifelines.Proofs.Persistence

/-!
# Why an operation is refused

An operation looks at its participants first, the sender before the target, and then
at what else it is given. The first thing that is wrong is the reason of the refusal,
and where nothing is wrong there is none: what an operation looks up while it draws
is what it has found before. What is wrong can be told from outside, from the log and
from what earlier operations have answered.

* `Diagram.barred?`: why a participant may not be drawn on;
* `Op.mismatch?`: what else may be wrong with an operation;
* `Op.refusal?`: the first thing that is wrong with an operation;
* `Op.error_iff_refusal`: an operation that draws is refused exactly for that reason.
-/

namespace Lifelines

/-- Why a participant may not be drawn on, if there is a reason: it was never registered,
    or a statement has ended its lifeline. -/
def Diagram.barred? (d : Diagram) (p : Handle) : Option DrawError :=
  match d.participantNames[p.index]? with
  | none => some (.unknownParticipant p.index)
  | some n => if d.log.any (·.ends n) then some (.danglingParticipant n) else none

namespace Op

/-- What is wrong with an operation although its participants may be drawn on, the
    elements that operations have added before being given: a frame that is not open, a
    comment that no operation has answered, or a participant that a message has created
    already, with the label it has now. -/
def mismatch? (elements : List (NameKind × String)) (d : Diagram) : Op → Option DrawError
  | endFrame _ name _ => if name ∈ d.openFrames then none else some (.unmatchedFrame name)
  | connectToComment _ name =>
    if (.comment, name) ∈ elements then none else some (.unknownComment name)
  | createInstance _ target _ _ => do
    let l ← d.lifelines[target.index]?
    let label ← l.label
    if d.log.any (·.creates l.name) then some (.alreadyCreated l.name label) else none
  | _ => none

/-- The first thing that is wrong with an operation, if anything is: its participants in
    order, and only then the rest. -/
def refusal? (elements : List (NameKind × String)) (d : Diagram) (op : Op) : Option DrawError :=
  (op.handles.findSome? d.barred?).or (op.mismatch? elements d)

end Op

/-- Why something is refused, if it is. -/
def DrawError.of? {α : Type} : Except DrawError α → Option DrawError
  | .error e => some e
  | .ok _ => none

namespace DrawError

variable {α : Type} {x : Except DrawError α}

theorem of?_eq_some_iff {e : DrawError} : of? x = some e ↔ x = .error e := by
  cases x <;> simp [of?]

theorem of?_eq_none_iff : of? x = none ↔ ∃ a, x = .ok a := by
  cases x <;> simp [of?]

end DrawError

open DrawError (of?)

namespace Diagram

variable {d : Diagram} {p sender target : Handle} {l : Lifeline}

/-! ### What the log tells about participants -/

/-- A lifeline has ended in the log if its participant is gone. -/
theorem Reachable.any_ends (h : d.Reachable) (hl : l ∈ d.lifelines) :
    d.log.any (·.ends l.name) = !l.alive := by
  have hended := (h.lived hl).ended
  cases ha : l.alive with
  | true =>
    rw [ha, if_pos rfl, List.countP_eq_zero] at hended
    simpa using hended
  | false =>
    rw [ha, if_neg Bool.false_ne_true] at hended
    rw [Bool.not_false, List.any_eq_true]
    exact List.countP_pos_iff.1 (by omega)

/-- A message in the log has created a participant if the diagram says so. -/
theorem Reachable.any_creates (h : d.Reachable) (hl : l ∈ d.lifelines) :
    d.log.any (·.creates l.name) = l.created := by
  have hcreated := (h.lived hl).created
  cases hc : l.created with
  | true =>
    rw [hc, if_pos rfl] at hcreated
    rw [List.any_eq_true]
    exact List.countP_pos_iff.1 (by omega)
  | false =>
    rw [hc, if_neg Bool.false_ne_true, List.countP_eq_zero] at hcreated
    simpa using hcreated

/-- Whoever was created has a label. -/
theorem Reachable.exists_label (h : d.Reachable) (hl : l ∈ d.lifelines)
    (hc : l.created = true) : ∃ label, l.label = some label := by
  have hr := h.recorded hl
  obtain ⟨sender, label, hmem⟩ := hr.created.1 hc
  exact ⟨label, hr.label sender label hmem⟩

/-! ### Participants that may not be drawn on -/

/-- A participant that is looked up is not found for the reason that the log tells. -/
theorem Reachable.of?_liveLifeline (h : d.Reachable) (p : Handle) :
    of? (d.liveLifeline p) = d.barred? p := by
  rw [barred?, participantNames, List.getElem?_map, liveLifeline, lifeline]
  cases hl : d.lifelines[p.index]? with
  | none => rfl
  | some l =>
    simp only [Option.map_some, h.any_ends (List.mem_of_getElem? hl)]
    cases ha : l.alive <;> simp [of?, bind, Except.bind, ha]

/-- What needs a participant is refused because of the participant, or else for reasons
    of its own. -/
theorem Reachable.of?_live_bind {α : Type} {script : Lifeline → Except DrawError α}
    {rest : Option DrawError} (h : d.Reachable)
    (hrest : ∀ l, d.liveLifeline p = .ok l → of? (script l) = rest) :
    of? (d.liveLifeline p >>= script) = ([p].findSome? d.barred?).or rest := by
  rw [List.findSome?_singleton, ← h.of?_liveLifeline]
  cases hl : d.liveLifeline p with
  | error e => rfl
  | ok l => exact hrest l hl

/-- What needs a sender and a target is refused because of the sender, or else because of
    the target, or else for reasons of its own. -/
theorem Reachable.of?_ends_bind {α : Type} {script : Lifeline × Lifeline → Except DrawError α}
    {rest : Option DrawError} (h : d.Reachable)
    (hrest : ∀ s t, d.liveEnds sender target = .ok (s, t) → of? (script (s, t)) = rest) :
    of? (d.liveEnds sender target >>= script) =
      ([sender, target].findSome? d.barred?).or rest := by
  rw [List.findSome?_cons, List.findSome?_singleton, ← h.of?_liveLifeline,
    ← h.of?_liveLifeline]
  rw [liveEnds] at hrest ⊢
  -- the sender is looked up first, so the target matters only if the sender is alive
  cases hs : d.liveLifeline sender with
  | error e => rfl
  | ok s =>
    cases ht : d.liveLifeline target with
    | error e => rfl
    | ok t =>
      rw [hs, ht] at hrest
      exact hrest s t rfl

end Diagram

/-! ### Operations -/

namespace Op

variable {d : Diagram} {elements : List (NameKind × String)}

/-- The script of an operation that draws refuses for the first thing that is wrong. -/
theorem of?_script (h : d.Reachable) (hnum : d.Numbered elements) {op : Op}
    (hop : op.draws = true) : of? (op.script d) = op.refusal? elements d := by
  cases op with
  | setParam => cases hop
  | addParticipant | setMode | step | objectConstraint => rfl
  | beginFrame | comment | lineConstraint | activate | deactivate | delete =>
    exact h.of?_live_bind fun _ _ => rfl
  | endFrame right name steps =>
    refine h.of?_live_bind fun l _ => ?_
    by_cases hn : name ∈ d.openFrames <;> simp [of?, mismatch?, hn]
  | connectToComment p name =>
    refine h.of?_live_bind fun l _ => ?_
    rw [hnum.comments]
    by_cases hn : (.comment, name) ∈ elements <;> simp [of?, mismatch?, hn]
  | message | returnMessage | destroyInstance | pushMethod | popMethod | callMethod =>
    exact h.of?_ends_bind fun _ _ _ => rfl
  | createInstance sender target label style =>
    refine h.of?_ends_bind fun s t hends => ?_
    obtain ⟨ht, -⟩ := Diagram.liveLifeline_eq_ok_iff.1 (Diagram.liveEnds_eq_ok_iff.1 hends).2
    have hmem := List.mem_of_getElem? ht
    simp only [mismatch?, ht, Option.bind_eq_bind, Option.bind_some, h.any_creates hmem]
    cases hc : t.created with
    | false => cases t.label <;> rfl
    | true =>
      -- the label that the error carries is the one that the message gave
      obtain ⟨given, hgiven⟩ := h.exists_label hmem hc
      rw [hgiven]
      rfl

/-- An operation that draws is refused for the first thing that is wrong with it, and it
    succeeds if nothing is. -/
theorem error_iff_refusal (ops : List Op) :
    let d := (runAll ops .empty).2
    (∀ op : Op, op.draws = true →
      (∀ e, (op.run d).1 = .error e ↔ op.refusal? (Op.elements ops .empty) d = some e) ∧
        ((∃ reply, (op.run d).1 = .ok reply) ↔ op.refusal? (Op.elements ops .empty) d = none)) ∧
      ∀ p, (∀ e, (Draw.exec (Draw.depth p) d).1 = .error e ↔ d.barred? p = some e) ∧
        ((∃ n, (Draw.exec (Draw.depth p) d).1 = .ok n) ↔ d.barred? p = none) := by
  intro d
  have h : d.Reachable := ⟨ops, rfl⟩
  have hnum : d.Numbered (Op.elements ops .empty) :=
    Diagram.numbered_empty.runAll Diagram.named_empty
  constructor
  · intro op hop
    have hrun : of? (op.run d).1 = op.refusal? (Op.elements ops .empty) d := by
      rw [← of?_script h hnum hop, run_eq h.named.distinct]
      cases op.script d <;> rfl
    rw [← hrun]
    exact ⟨fun _ => DrawError.of?_eq_some_iff.symm, DrawError.of?_eq_none_iff.symm⟩
  · intro p
    have hdepth : of? (Draw.exec (Draw.depth p) d).1 = d.barred? p := by
      rw [← h.of?_liveLifeline, Draw.depth, Draw.exec_bind, Draw.exec_live]
      cases d.liveLifeline p <;> rfl
    rw [← hdepth]
    exact ⟨fun _ => DrawError.of?_eq_some_iff.symm, DrawError.of?_eq_none_iff.symm⟩

/-- An object that creates another one and destroys a third. -/
def comingAndGoing : List Op :=
  [addParticipant (.object "a"), addParticipant .placeholder, addParticipant (.object "c"),
    createInstance ⟨0⟩ ⟨1⟩ "b" none, destroyInstance ⟨0⟩ ⟨2⟩ none]

/-- Of several things that are wrong, the first one is the reason: a sender that is gone
    before a target that never was, and before a frame that is not open. -/
theorem refusals_after_comingAndGoing :
    let d := (runAll comingAndGoing .empty).2
    ((message ⟨2⟩ ⟨3⟩ "m").run d).1 =
        .error (.danglingParticipant (NameKind.participant.name 2)) ∧
      ((endFrame ⟨2⟩ "F_0" 0).run d).1 =
        .error (.danglingParticipant (NameKind.participant.name 2)) ∧
      ((createInstance ⟨0⟩ ⟨1⟩ "d" none).run d).1 =
        .error (.alreadyCreated (NameKind.participant.name 1) "b") ∧
      ∃ reply, ((message ⟨0⟩ ⟨1⟩ "m").run d).1 = .ok reply := by
  obtain ⟨drawn, -⟩ := error_iff_refusal comingAndGoing
  exact ⟨((drawn (message ⟨2⟩ ⟨3⟩ "m") rfl).1 _).2 rfl,
    ((drawn (endFrame ⟨2⟩ "F_0" 0) rfl).1 _).2 rfl,
    ((drawn (createInstance ⟨0⟩ ⟨1⟩ "d" none) rfl).1 _).2 rfl,
    (drawn (message ⟨0⟩ ⟨1⟩ "m") rfl).2.2 rfl⟩

end Op

end Lifelines
