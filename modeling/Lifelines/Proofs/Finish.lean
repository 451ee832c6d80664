import Lifelines.Proofs.Lifecycle
import Lifelines.Proofs.Matching
import Lifelines.Proofs.Style

/-!
# Finishing a diagram

What finishing a diagram gives can be told from what its operations have answered and
what they have been asked to end. A frame that an operation has begun and none has ended
is in the way; without one, the participants that were neither destroyed nor deleted are
completed, each once and in the order of their registration, and the log is kept.

* `Statement.endings`: the participants and frames that statements bring to an end;
* `Op.endings`: those that operations are asked to bring to an end;
* `NameKind.remaining`: the elements of a kind that have no end;
* `Op.finish_eq`: what finishing the diagram after some operations gives.
-/

namespace Lifelines

/-- The element that a change brings to an end, with its kind. -/
def Effect.ending? : Effect → Option (NameKind × String)
  | .leave name => some (.participant, name)
  | .closeFrame frame => some (.frame, frame)
  | _ => Option.none

/-- The elements that statements bring to an end, in order. -/
def Statement.endings (ss : List Statement) : List (NameKind × String) :=
  ss.filterMap (·.effect.ending?)

/-- The element that an operation is asked to bring to an end. -/
def Op.ending? (d : Diagram) : Op → Option (NameKind × String)
  | endFrame _ name _ => some (.frame, name)
  | delete p => some (.participant, d.nameOf p)
  | destroyInstance _ target _ => some (.participant, d.nameOf target)
  | _ => none

/-- The elements that some operations bring to an end one after the other; what is
    refused brings nothing to an end. -/
def Op.endings : List Op → Diagram → List (NameKind × String)
  | [], _ => []
  | op :: ops, d =>
    (match (op.run d).1 with
      | .ok _ => (op.ending? d).toList
      | .error _ => []) ++ endings ops (op.run d).2

/-- The names of a kind among some elements that are not among those with an end. -/
def NameKind.remaining (kind : NameKind) (elements endings : List (NameKind × String)) :
    List String :=
  (kind.select elements).filter (· ∉ kind.select endings)

/-! ### Endings in a log -/

namespace Statement

variable {s : Statement} {ss ts : List Statement} {n : String}

@[simp]
theorem endings_nil : endings [] = [] := rfl

@[simp]
theorem endings_cons : endings (s :: ss) = s.effect.ending?.toList ++ endings ss := by
  rw [endings, List.filterMap_cons]
  cases s.effect.ending? <;> simp [endings]

@[simp]
theorem endings_append : endings (ss ++ ts) = endings ss ++ endings ts :=
  List.filterMap_append

@[simp]
theorem endings_replicate_step (n : Nat) : endings (List.replicate n .step) = [] :=
  List.filterMap_replicate_of_none rfl

@[simp]
theorem endings_switch (before : Option SyncMode) (mode : SyncMode) :
    endings (SyncMode.switch before mode) = [] := by
  unfold SyncMode.switch
  split <;> simp [Effect.ending?]

@[simp]
theorem endings_around (before style : Option SyncMode) :
    endings (SyncMode.around before style s) = s.effect.ending?.toList := by
  unfold SyncMode.around
  split <;> simp

/-- A frame has ended if a statement ends it. -/
theorem mem_endings_frame_iff : (.frame, n) ∈ endings ss ↔ n ∈ ended ss := by
  rw [endings, ended, List.mem_filterMap, List.mem_filterMap]
  refine exists_congr fun s => and_congr_right fun _ => ?_
  cases s.effect <;> simp [Effect.ending?, Effect.closed?]

end Statement

/-! ### Endings and operations -/

/-- An operation that is not refused writes the end that it is asked for. -/
theorem Op.endings_script {op : Op} {d : Diagram} {reply : Reply} {ss : List Statement}
    (h : op.script d = .ok (reply, ss)) : Statement.endings ss = (op.ending? d).toList := by
  unfold script at h
  cases op with
  | addParticipant | setMode | step | objectConstraint =>
    cases h
    simp [Effect.ending?, ending?]
  | setParam =>
    dsimp only at h
    split at h <;> cases h
    simp [ending?]
  -- the others need participants that are alive
  | beginFrame | comment | lineConstraint | activate | message | returnMessage | pushMethod =>
    obtain ⟨l, -, h⟩ := exists_of_bind_eq_ok h
    cases h
    simp [Effect.ending?, ending?]
  | delete =>
    obtain ⟨l, hl, h⟩ := exists_of_bind_eq_ok h
    cases h
    simp [Effect.ending?, ending?, Diagram.nameOf_eq hl]
  | destroyInstance =>
    obtain ⟨⟨s, t⟩, hends, h⟩ := exists_of_bind_eq_ok h
    cases h
    simp [Effect.ending?, ending?, (Diagram.names_of_liveEnds hends).2]
  | endFrame | connectToComment =>
    obtain ⟨l, -, h⟩ := exists_of_bind_eq_ok h
    split at h <;> cases h
    simp [Effect.ending?, ending?]
  | createInstance =>
    obtain ⟨⟨s, t⟩, -, h⟩ := exists_of_bind_eq_ok h
    dsimp only at h
    split at h <;> cases h
    simp [Effect.ending?, ending?]
  | deactivate | popMethod =>
    obtain ⟨l, -, h⟩ := exists_of_bind_eq_ok h
    cases h
    split <;> simp [Effect.ending?, ending?]
  | callMethod sender target call =>
    obtain ⟨l, -, h⟩ := exists_of_bind_eq_ok h
    cases h
    cases call.response <;> simp [Effect.ending?, ending?]

namespace Diagram

variable {d : Diagram} {s : Statement} {n : String}

/-- An operation ends in the log what it says, and one that is refused ends nothing. -/
theorem endings_run (hd : d.Named) (op : Op) : Statement.endings (op.run d).2.log =
    Statement.endings d.log ++
      match (op.run d).1 with
      | .ok _ => (op.ending? d).toList
      | .error _ => [] := by
  rw [Op.run_eq hd.distinct]
  cases hs : op.script d with
  | error e => simp
  | ok answer =>
    dsimp only
    rw [log_writeAll, Statement.endings_append, Op.endings_script hs]

/-- The log lists what the operations of a run have ended, in order. -/
theorem endings_runAll {ops : List Op} (hd : d.Named) :
    Statement.endings (Op.runAll ops d).2.log =
      Statement.endings d.log ++ Op.endings ops d := by
  induction ops generalizing d with
  | nil => simp [Op.runAll, Op.endings]
  | cons op ops ih =>
    rw [Op.endings, ← List.append_assoc, ← endings_run hd]
    exact ih (hd.run op)

/-! ### Endings in the log of a diagram -/

/-- A participant is brought to an end by a cross or by a message that destroys it. -/
theorem Reachable.mem_endings_participant_iff (h : d.Reachable) :
    (.participant, n) ∈ Statement.endings d.log ↔
      .delete n ∈ d.log ∨ ∃ sender, .destroyMessage sender n ∈ d.log := by
  refine h.induct (motive := fun d => (.participant, n) ∈ Statement.endings d.log ↔
    .delete n ∈ d.log ∨ ∃ sender, .destroyMessage sender n ∈ d.log) (by simp [empty]) ?_
    fun _ _ => id
  intro d s _ hs ih
  have hend : (.participant, n) ∈ Statement.endings [s] ↔ s.effect = .leave n := by
    cases he : s.effect <;> simp [Effect.ending?, he, eq_comm]
  rw [log_write, Statement.endings_append, List.mem_append, ih, hend, hs.exists_end_mem]

/-- A frame has ended if the log holds the statement that ends it. -/
theorem Reachable.mem_endings_frame_iff (h : d.Reachable) :
    (.frame, n) ∈ Statement.endings d.log ↔ ∃ right, .endFrame right n ∈ d.log := by
  refine h.induct (motive := fun d => (.frame, n) ∈ Statement.endings d.log ↔
    ∃ right, .endFrame right n ∈ d.log) (by simp [empty]) ?_ fun _ _ => id
  intro d s _ hs ih
  have hend : (.frame, n) ∈ Statement.endings [s] ↔ ∃ right, .endFrame right n = s := by
    constructor
    · intro hmem
      have he : s.effect = .closeFrame n := by
        cases he : s.effect <;> simp_all [Effect.ending?]
      obtain ⟨right, rfl⟩ := hs.exists_endFrame he
      exact ⟨right, rfl⟩
    · rintro ⟨right, rfl⟩
      simp [Effect.ending?]
  rw [log_write, Statement.endings_append, List.mem_append, ih, hend, ← exists_or]
  simp [List.mem_append]

/-! ### What is left -/

/-- The names behind the handles that are alive, in order. -/
theorem map_nameOf_liveHandles (d : Diagram) : d.liveHandles.map d.nameOf = d.liveNames := by
  have hall : (List.range d.lifelines.length).map (d.lifelines[·]?) = d.lifelines.map some := by
    refine List.ext_getElem (by simp) fun i _ hi => ?_
    rw [List.length_map] at hi
    simp [hi]
  -- both functions read the lifeline at an index, so the list is one over the lifelines
  have hlive : d.isLive ∘ Handle.mk = (fun l? : Option Lifeline => l?.elim false Lifeline.alive) ∘
      (d.lifelines[·]?) := by
    funext i
    simp only [Function.comp_apply, isLive]
    cases d.lifelines[i]? <;> rfl
  have hname : d.nameOf ∘ Handle.mk = (fun l? : Option Lifeline => l?.elim "" Lifeline.name) ∘
      (d.lifelines[·]?) := by
    funext i
    simp only [Function.comp_apply, nameOf]
    cases d.lifelines[i]? <;> rfl
  rw [liveHandles, List.filter_map, List.map_map, hlive, hname, ← List.map_map, ← List.filter_map,
    hall, List.filter_map, List.map_map]
  rfl

/-- The participants that are alive are those that the log brings to no end. -/
theorem Reachable.liveNames_eq (h : d.Reachable) : d.liveNames = NameKind.participant.remaining
    (Statement.introductions d.log) (Statement.endings d.log) := by
  -- the registration order of the participants is the order of their declarations
  rw [NameKind.remaining, ← h.numbered.participants, participantNames, List.filter_map, liveNames]
  refine congrArg (List.map _) (List.filter_congr fun l hl => ?_)
  have hgone := (h.recorded hl).gone
  rw [← h.mem_endings_participant_iff] at hgone
  cases ha : l.alive <;> simp_all

/-- The open frames are those that the log brings to no end. -/
theorem Reachable.openFrames_eq (h : d.Reachable) : d.openFrames = NameKind.frame.remaining
    (Statement.introductions d.log) (Statement.endings d.log) := by
  rw [h.matching.openFrames, NameKind.remaining]
  refine List.filter_congr fun n _ => ?_
  simp only [NameKind.mem_select_iff, Statement.mem_endings_frame_iff]

end Diagram

namespace Op

/-- After some operations the diagram cannot be finished while frames are left, and they
    are named in opening order. Else the participants that are left are completed, in the
    order of their registration. What is left is what operations have answered, without
    what operations have ended since, and the log shows the same. -/
theorem finish_eq (ops : List Op) :
    let d := (runAll ops .empty).2
    let left (kind : NameKind) := kind.remaining (elements ops .empty) (endings ops .empty)
    d.finish = (if left .frame = [] then
        .ok ⟨d.params, d.log ++ (left .participant).map Statement.complete⟩
      else .error (.unclosedFrames (left .frame))) ∧
    d.liveHandles.map d.nameOf = left .participant ∧ (left .participant).Nodup ∧
    Statement.introductions d.log = elements ops .empty ∧
    Statement.endings d.log = endings ops .empty ∧
    ∀ n, ((.participant, n) ∈ endings ops .empty ↔
        .delete n ∈ d.log ∨ ∃ sender, .destroyMessage sender n ∈ d.log) ∧
      ((.frame, n) ∈ endings ops .empty ↔ ∃ right, .endFrame right n ∈ d.log) := by
  intro d left
  have h : d.Reachable := ⟨ops, rfl⟩
  have helements : Statement.introductions d.log = elements ops .empty :=
    (Diagram.numbered_empty.runAll Diagram.named_empty).introductions
  have hendings : Statement.endings d.log = endings ops .empty :=
    Diagram.endings_runAll Diagram.named_empty
  have hframes : d.openFrames = left .frame := by
    rw [h.openFrames_eq, helements, hendings]
  have hparticipants : d.liveNames = left .participant := by
    rw [h.liveNames_eq, helements, hendings]
  refine ⟨?_, ?_, ?_, helements, hendings, fun n => ?_⟩
  · rw [Diagram.finish, hframes, hparticipants]
    simp only [List.isEmpty_iff]
  · rw [Diagram.map_nameOf_liveHandles, hparticipants]
  · rw [← hparticipants]
    exact Diagram.nodup_liveNames h.named
  · rw [← hendings]
    exact ⟨h.mem_endings_participant_iff, h.mem_endings_frame_iff⟩

end Op

end Lifelines
