import Lifelines.Proofs.Reachable

/-!
# Parameters and drawing do not interact

Setting a layout parameter and drawing change one diagram, but neither looks at what
the other changes. So a run falls into two: the operations that set parameters, and
those that draw. Each part is answered as if the other were not there, and the
diagram in the end has its parameters from one part and all else from the other.
How the two are interleaved makes no difference.

* `Op.filter_setsParam_transcript`, `Op.filter_draws_transcript`: each part of a run is
  answered as if it were alone;
* `Op.runAll_eq`: the diagram after a run in terms of the two parts;
* `Op.interleavings_agree`: all interleavings of two parts are answered alike and lead
  to the same diagram.
-/

namespace Lifelines

/-- The diagram with other layout parameters. -/
def Diagram.withParams (d : Diagram) (params : ParamSet) : Diagram :=
  { d with params := params }

namespace Op

/-- Whether the operation sets a layout parameter. -/
def setsParam : Op → Bool
  | setParam _ _ => true
  | _ => false

/-- Whether the operation draws: it sets no layout parameter. -/
def draws (op : Op) : Bool :=
  !op.setsParam

/-- The operations are some that set parameters and some that draw, put together
    without a change of the order of either. -/
structure Interleaves (sets drawings ops : List Op) : Prop where
  sets : ops.filter setsParam = sets
  drawings : ops.filter draws = drawings

variable {d d' : Diagram} {op : Op} {ops : List Op}

theorem setsParam_or_draws (op : Op) :
    op.setsParam = true ∧ op.draws = false ∨ op.setsParam = false ∧ op.draws = true := by
  cases h : op.setsParam <;> simp [draws, h]

/-! ### One operation -/

/-- An operation that draws leaves the parameters alone. -/
theorem newParams_of_draws (h : op.draws = true) (params : ParamSet) :
    op.newParams params = params := by
  refine newParams_of_ne ?_ params
  rintro name value rfl
  cases h

/-- What an operation that draws does is not read off the parameters. -/
theorem script_withParams (h : op.draws = true) (d : Diagram) (params : ParamSet) :
    op.script (d.withParams params) = op.script d := by
  cases op with
  | setParam => cases h
  | _ => rfl

/-- An operation that draws does the same whatever the parameters are. -/
theorem run_withParams (hd : d.Named) (h : op.draws = true) (params : ParamSet) :
    op.run (d.withParams params) = ((op.run d).1, (op.run d).2.withParams params) := by
  have hd' : (d.withParams params).Named := hd.params params
  rw [run_eq hd'.distinct, run_eq hd.distinct, script_withParams h]
  cases op.script d with
  | error e => rfl
  | ok answer =>
    dsimp only
    rw [newParams_of_draws h, Diagram.withParams, Diagram.writeAll_params]
    rfl

/-- The parameters are the same after an operation that draws. -/
theorem params_run (hd : d.Named) (h : op.draws = true) : (op.run d).2.params = d.params := by
  rw [run_eq hd.distinct]
  cases op.script d with
  | error e => rfl
  | ok answer => exact newParams_of_draws h d.params

/-- A parameter is set in the same way whatever has been drawn. -/
theorem run_of_setsParam (h : op.setsParam = true) (hp : d.params = d'.params) :
    op.run d = ((op.run d').1, d.withParams (op.run d').2.params) := by
  cases op with
  | setParam name value =>
    rw [run_setParam, run_setParam, hp]
    cases d'.params.set name value with
    | ok params => rfl
    | error e => simp [Diagram.withParams, ← hp]
  | _ => cases h

/-! ### The two parts of a run -/

/-- Operations that draw do the same whatever the parameters are. -/
theorem runAll_withParams (hd : d.Named) (h : ∀ op ∈ ops, op.draws = true) (params : ParamSet) :
    runAll ops (d.withParams params) =
      ((runAll ops d).1, (runAll ops d).2.withParams params) := by
  induction ops generalizing d with
  | nil => rfl
  | cons op ops ih =>
    obtain ⟨hop, hops⟩ := List.forall_mem_cons.1 h
    rw [runAll, run_withParams hd hop]
    dsimp only
    rw [ih (hd.run op) hops]
    rfl

/-- Operations that set parameters look at nothing but the parameters. -/
theorem runAll_of_setsParam (h : ∀ op ∈ ops, op.setsParam = true) (hp : d.params = d'.params) :
    runAll ops d = ((runAll ops d').1, d.withParams (runAll ops d').2.params) := by
  induction ops generalizing d d' with
  | nil => simp [runAll, Diagram.withParams, ← hp]
  | cons op ops ih =>
    obtain ⟨hop, hops⟩ := List.forall_mem_cons.1 h
    have hset : (d.withParams (op.run d').2.params).params = (op.run d').2.params := rfl
    rw [runAll, run_of_setsParam hop hp]
    dsimp only
    rw [ih hops hset]
    rfl

/-- Once a parameter has been set, all is drawn as it would have been before. -/
theorem runAll_draws_run (hd : d.Named) (h : op.setsParam = true) (ops : List Op) :
    runAll (ops.filter draws) (op.run d).2 = ((runAll (ops.filter draws) d).1,
      (runAll (ops.filter draws) d).2.withParams (op.run d).2.params) := by
  have hop : (op.run d).2 = d.withParams (op.run d).2.params :=
    congrArg Prod.snd (run_of_setsParam h rfl)
  rw [hop, runAll_withParams hd fun op hop => (List.mem_filter.1 hop).2, ← hop]

/-- Once something has been drawn, parameters are set as they would have been before. -/
theorem runAll_setsParam_run (hd : d.Named) (h : op.draws = true) (ops : List Op) :
    runAll (ops.filter setsParam) (op.run d).2 = ((runAll (ops.filter setsParam) d).1,
      (op.run d).2.withParams (runAll (ops.filter setsParam) d).2.params) :=
  runAll_of_setsParam (fun _ hop => (List.mem_filter.1 hop).2) (params_run hd h)

/-- Parameters are set as if nothing were drawn. -/
theorem filter_setsParam_transcript (hd : d.Named) (ops : List Op) :
    (transcript ops d).filter (fun answer => answer.1.setsParam) =
      transcript (ops.filter setsParam) d := by
  induction ops generalizing d with
  | nil => rfl
  | cons op ops ih =>
    rcases op.setsParam_or_draws with ⟨hsets, -⟩ | ⟨hsets, hdraws⟩
    · simp only [transcript_cons, List.filter_cons, hsets, ↓reduceIte, ih (hd.run op)]
    · simp only [transcript_cons, List.filter_cons, hsets, Bool.false_eq_true, ↓reduceIte,
        ih (hd.run op)]
      rw [transcript, runAll_setsParam_run hd hdraws, transcript]

/-- All is drawn as if no parameter were set. -/
theorem filter_draws_transcript (hd : d.Named) (ops : List Op) :
    (transcript ops d).filter (fun answer => answer.1.draws) =
      transcript (ops.filter draws) d := by
  induction ops generalizing d with
  | nil => rfl
  | cons op ops ih =>
    rcases op.setsParam_or_draws with ⟨hsets, hdraws⟩ | ⟨-, hdraws⟩
    · simp only [transcript_cons, List.filter_cons, hdraws, Bool.false_eq_true, ↓reduceIte,
        ih (hd.run op)]
      rw [transcript, runAll_draws_run hd hsets, transcript]
    · simp only [transcript_cons, List.filter_cons, hdraws, ↓reduceIte, ih (hd.run op)]

/-- The diagram after a run has its parameters from one part of the run and all else from
    the other. -/
theorem runAll_eq (hd : d.Named) (ops : List Op) : (runAll ops d).2 =
    (runAll (ops.filter draws) d).2.withParams (runAll (ops.filter setsParam) d).2.params := by
  induction ops generalizing d with
  | nil => rfl
  | cons op ops ih =>
    change (runAll ops (op.run d).2).2 = _
    rw [ih (hd.run op)]
    -- the first operation is in one of the parts, and the other runs as if it were not there
    rcases op.setsParam_or_draws with ⟨hsets, hdraws⟩ | ⟨hsets, hdraws⟩
    · rw [runAll_draws_run hd hsets]
      simp only [List.filter_cons, hsets, hdraws, Bool.false_eq_true, ↓reduceIte]
      rfl
    · rw [runAll_setsParam_run hd hdraws]
      simp only [List.filter_cons, hsets, hdraws, Bool.false_eq_true, ↓reduceIte]
      rfl

/-! ### Interleavings -/

/-- All interleavings of some operations that set parameters and some that draw are
    answered alike, each operation as in the part that it comes from. They lead to one
    diagram, so it is finished with one outcome and written as one text. -/
theorem interleavings_agree {sets drawings ops ops' : List Op}
    (h : Interleaves sets drawings ops) (h' : Interleaves sets drawings ops') :
    let d := (runAll ops .empty).2
    let d' := (runAll ops' .empty).2
    ((transcript ops .empty).filter (fun answer => answer.1.setsParam) =
        transcript sets .empty ∧
      (transcript ops' .empty).filter (fun answer => answer.1.setsParam) =
        transcript sets .empty) ∧
      ((transcript ops .empty).filter (fun answer => answer.1.draws) =
          transcript drawings .empty ∧
        (transcript ops' .empty).filter (fun answer => answer.1.draws) =
          transcript drawings .empty) ∧
      d = d' ∧ d.finish = d'.finish ∧
      ∀ library, d.finish.map (Document.toPic · library) =
        d'.finish.map (Document.toPic · library) := by
  intro d d'
  -- the diagram is put together from the two parts, which both interleavings have
  have heq : d = d' := by
    have hops := runAll_eq Diagram.named_empty ops
    have hops' := runAll_eq Diagram.named_empty ops'
    rw [h.sets, h.drawings] at hops
    rw [h'.sets, h'.drawings] at hops'
    exact hops.trans hops'.symm
  refine ⟨⟨?_, ?_⟩, ⟨?_, ?_⟩, heq, by rw [heq], fun library => by rw [heq]⟩
  · rw [filter_setsParam_transcript Diagram.named_empty, h.sets]
  · rw [filter_setsParam_transcript Diagram.named_empty, h'.sets]
  · rw [filter_draws_transcript Diagram.named_empty, h.drawings]
  · rw [filter_draws_transcript Diagram.named_empty, h'.drawings]

/-- Two parameters set and one refused. -/
def someSets : List Op :=
  [setParam "boxWidth" (.number 1.5), setParam "boxColour" (.flag true),
    setParam "underline" (.flag false)]

/-- An object, a message to nobody, which is refused, and a frame that stays open. -/
def someDrawings : List Op :=
  [addParticipant (.object "a"), message ⟨0⟩ ⟨1⟩ "m", beginFrame ⟨0⟩ "loop" 1]

/-- The parameters may be set in turn with the drawing, or before it. -/
theorem sets_in_turn_agree_with_sets_before :
    let inTurn := [setParam "boxWidth" (.number 1.5), addParticipant (.object "a"),
      setParam "boxColour" (.flag true), message ⟨0⟩ ⟨1⟩ "m",
      setParam "underline" (.flag false), beginFrame ⟨0⟩ "loop" 1]
    Interleaves someSets someDrawings inTurn ∧
      Interleaves someSets someDrawings (someSets ++ someDrawings) ∧
      (runAll inTurn .empty).2 = (runAll (someSets ++ someDrawings) .empty).2 := by
  intro inTurn
  have h : Interleaves someSets someDrawings inTurn := ⟨rfl, rfl⟩
  have h' : Interleaves someSets someDrawings (someSets ++ someDrawings) := ⟨rfl, rfl⟩
  obtain ⟨-, -, heq, -⟩ := interleavings_agree h h'
  exact ⟨h, h', heq⟩

end Op

end Lifelines
