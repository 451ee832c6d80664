import Lifelines.Proofs.Reachable

/-!
# Texts are opaque

Labels, messages, constraints and the texts of comments are drawn, kept and
quoted in refusals, but nothing depends on what they say. To see this, texts are
*muted*: every text is replaced by the empty one, in operations, in statements
and in diagrams. Muting goes through whatever operations do, so the muted
operations of a run lead to the muted diagram. Two runs that differ in texts
alone are the same run when they are muted.

* `Op.mute`, `Statement.mute`, `Diagram.mute`, ...: what is left without texts;
* `Statement.outline`: the macro and the names in a statement, each in its place;
* `Op.run_mute`: an operation muted does what the operation does, muted;
* `Diagram.Alike`: diagrams that differ in texts alone;
* `Op.texts_opaque`: runs that differ in texts alone are refused at the same points
  and lead to diagrams that are alike.
-/

namespace Lifelines

/-! ### Muted texts -/

/-- The participant without its label. -/
def Participant.mute : Participant → Participant
  | object _ => object ""
  | actor _ => actor ""
  | placeholder => placeholder

/-- The call without its texts; it has a reply if it had one. -/
def Call.mute (call : Call) : Call :=
  { call with request := "", response := call.response.map fun _ => "" }

/-- The operation without its texts. What a comment looks like is text as well. -/
def Op.mute : Op → Op
  | addParticipant p => addParticipant p.mute
  | beginFrame left _ steps => beginFrame left "" steps
  | comment p _ => comment p { text := "" }
  | objectConstraint _ => objectConstraint ""
  | lineConstraint p _ below => lineConstraint p "" below
  | message sender target _ => message sender target ""
  | returnMessage sender target _ => returnMessage sender target ""
  | createInstance sender target _ style => createInstance sender target "" style
  | pushMethod sender target _ mode => pushMethod sender target "" mode
  | popMethod sender target _ mode => popMethod sender target "" mode
  | callMethod sender target call => callMethod sender target call.mute
  -- the others have no texts
  | setMode mode => setMode mode
  | step n => step n
  | endFrame right name steps => endFrame right name steps
  | connectToComment p name => connectToComment p name
  | setParam name value => setParam name value
  | activate p => activate p
  | deactivate p => deactivate p
  | delete p => delete p
  | destroyInstance sender target style => destroyInstance sender target style

/-- The argument without its text. -/
def Arg.mute : Arg → Arg
  | ident name => ident name
  | quoted _ => quoted ""
  | raw _ => raw ""
  | lines _ _ => lines none [""]

/-- The statement without its texts. -/
def Statement.mute (s : Statement) : Statement :=
  ⟨s.name, s.args.map Arg.mute⟩

/-- The change without its label. -/
def Effect.mute : Effect → Effect
  | declare name kind label => declare name kind (label.map fun _ => "")
  | create name _ => create name ""
  | e => e

/-- The lifeline without its label; it has one if it had one. -/
def Lifeline.mute (l : Lifeline) : Lifeline :=
  { l with label := l.label.map fun _ => "" }

/-- The diagram without its texts. -/
def Diagram.mute (d : Diagram) : Diagram :=
  { d with log := d.log.map Statement.mute, lifelines := d.lifelines.map Lifeline.mute }

/-- The refusal without the label that it quotes. -/
def DrawError.mute : DrawError → DrawError
  | alreadyCreated name _ => alreadyCreated name ""
  | e => e

/-- The macro of a statement, and the names among its arguments, each in its place. -/
def Statement.outline (s : Statement) : String × List (Option String) :=
  (s.name, s.args.map Arg.name?)

/-- The diagrams differ in texts alone. -/
structure Diagram.Alike (d d' : Diagram) : Prop where
  log : d.log.map Statement.outline = d'.log.map Statement.outline
  lifelines : d.lifelines.map Lifeline.mute = d'.lifelines.map Lifeline.mute
  params : d.params = d'.params
  openFrames : d.openFrames = d'.openFrames
  comments : d.comments = d'.comments
  mode : d.mode = d'.mode
  names : d.names = d'.names

/-! ### Statements -/

namespace Statement

variable (a b text : String)

@[simp] theorem mute_step : step.mute = step := rfl
@[simp] theorem mute_beginFrame : (beginFrame a b text).mute = beginFrame a b "" := rfl
@[simp] theorem mute_endFrame : (endFrame a b).mute = endFrame a b := rfl
@[simp] theorem mute_connectToComment : (connectToComment a b).mute = connectToComment a b := rfl
@[simp] theorem mute_objectConstraint : (objectConstraint text).mute = objectConstraint "" := rfl
@[simp] theorem mute_activate : (activate a).mute = activate a := rfl
@[simp] theorem mute_deactivate : (deactivate a).mute = deactivate a := rfl
@[simp] theorem mute_message : (message a b text).mute = message a b "" := rfl
@[simp] theorem mute_returnMessage : (returnMessage a b text).mute = returnMessage a b "" := rfl
@[simp] theorem mute_createMessage : (createMessage a b text).mute = createMessage a b "" := rfl
@[simp] theorem mute_destroyMessage : (destroyMessage a b).mute = destroyMessage a b := rfl
@[simp] theorem mute_delete : (delete a).mute = delete a := rfl
@[simp] theorem mute_statement (mode : SyncMode) : mode.statement.mute = mode.statement := rfl

@[simp]
theorem mute_lineConstraint (below : Bool) :
    (lineConstraint a text below).mute = lineConstraint a "" below := rfl

@[simp]
theorem mute_comment (movement : String) (size : Option String) :
    (comment a b movement size text).mute = comment a b "" none "" := by
  have htext : (Arg.ofText size text).mute = Arg.ofText none "" := by
    unfold Arg.ofText
    split <;> rfl
  simp only [mute, comment, List.map_cons, List.map_nil, htext]
  rfl

@[simp]
theorem mute_declaration (p : Participant) :
    (p.declaration a).mute = p.mute.declaration a := by
  cases p <;> rfl

@[simp]
theorem mute_switch (before : Option SyncMode) (mode : SyncMode) :
    (SyncMode.switch before mode).map Statement.mute = SyncMode.switch before mode := by
  unfold SyncMode.switch
  split <;> rfl

/-- Without its texts, a message within a style is the mute message within it. -/
@[simp]
theorem mute_around (before style : Option SyncMode) (s : Statement) :
    (SyncMode.around before style s).map Statement.mute =
      SyncMode.around before style s.mute := by
  unfold SyncMode.around
  split <;> simp

/-- The outline of a statement does not depend on its texts. -/
theorem outline_mute (s : Statement) : s.mute.outline = s.outline := by
  have hname : ∀ a : Arg, a.mute.name? = a.name? := by
    intro a
    cases a <;> rfl
  simp [outline, mute, Function.comp_def, hname]

end Statement

/-! ### Diagrams -/

namespace Lifeline

variable (l : Lifeline)

@[simp] theorem mute_name : l.mute.name = l.name := rfl
@[simp] theorem mute_depth : l.mute.depth = l.depth := rfl
@[simp] theorem mute_created : l.mute.created = l.created := rfl

@[simp]
theorem getD_label_mute : l.mute.label.getD "" = "" := by
  cases h : l.label <;> simp [mute, h]

end Lifeline

namespace Diagram

variable {d : Diagram} {s : Statement}

@[simp] theorem mute_openFrames : d.mute.openFrames = d.openFrames := rfl
@[simp] theorem mute_comments : d.mute.comments = d.comments := rfl
@[simp] theorem mute_mode : d.mute.mode = d.mode := rfl
@[simp] theorem mute_names : d.mute.names = d.names := rfl
@[simp] theorem mute_params : d.mute.params = d.params := rfl
@[simp] theorem length_lifelines_mute : d.mute.lifelines.length = d.lifelines.length :=
  List.length_map _

/-- Taking the texts out of a statement the diagram admits takes them out of its effect and
    leaves the rest. -/
theorem Admissible.effect_mute (h : d.Admissible s) : s.mute.effect = s.effect.mute := by
  cases h with
  | declaration p => cases p <;> rfl
  | _ => simp [Effect.mute]

/-- A change of a lifeline that leaves texts aside carries over to the mute diagram. -/
theorem mute_change {n : String} {f g : Lifeline → Lifeline} (h : ∀ l, (f l).mute = g l.mute) :
    (d.change n f).mute = d.mute.change n g := by
  simp only [change, mute, List.map_map, Diagram.mk.injEq, and_true, true_and]
  refine List.map_congr_left fun l _ => ?_
  by_cases hl : l.name = n <;> simp [hl, h]

/-- What a statement changes does not depend on its texts. -/
theorem mute_apply (e : Effect) : (d.apply e).mute = d.mute.apply e.mute := by
  cases e with
  | activate | deactivate | create | leave => exact mute_change fun _ => rfl
  | _ => simp [apply, mute, Effect.mute, Lifeline.mute]

/-- Writing a statement and then taking the texts out is writing the mute statement to the mute
    diagram. -/
theorem mute_write (h : d.Admissible s) : (d.write s).mute = d.mute.write s.mute := by
  rw [write, write, h.effect_mute, ← mute_apply]
  simp [mute]

/-- Writing a script and then taking the texts out is writing the mute script to the mute
    diagram. -/
theorem mute_writeAll {ss : List Statement} (h : d.Admits ss) :
    (d.writeAll ss).mute = d.mute.writeAll (ss.map Statement.mute) := by
  induction ss generalizing d with
  | nil => rfl
  | cons s ss ih =>
    rw [writeAll_cons, ih h.2, mute_write h.1]
    rfl

theorem participantNames_mute (d : Diagram) : d.mute.participantNames = d.participantNames := by
  simp only [participantNames, mute, List.map_map]
  rfl

end Diagram

/-! ### Results -/

namespace Draw

variable {α β : Type} {f : α → α} {g : β → β}

/-- A result without its texts, the refusal included. -/
def muted (f : α → α) : Except DrawError α → Except DrawError α
  | .ok a => .ok (f a)
  | .error e => .error e.mute

@[simp] theorem muted_ok (a : α) : muted f (.ok a) = .ok (f a) := rfl
@[simp] theorem muted_error (e : DrawError) : muted f (.error e) = .error e.mute := rfl

/-- What is looked up first may be muted first. -/
theorem muted_bind {x : Except DrawError α} {k k' : α → Except DrawError β}
    (h : ∀ a, muted g (k a) = k' (f a)) : muted g (x >>= k) = muted f x >>= k' := by
  cases x with
  | error e => rfl
  | ok a => exact h a

end Draw

open Draw

namespace Diagram

variable (d : Diagram) (p sender target : Handle)

/-- A check for a live participant decides the same without the texts. -/
theorem liveLifeline_mute :
    d.mute.liveLifeline p = muted Lifeline.mute (d.liveLifeline p) := by
  have hget : d.mute.lifelines[p.index]? = d.lifelines[p.index]?.map Lifeline.mute :=
    List.getElem?_map
  simp only [liveLifeline, lifeline, hget]
  cases d.lifelines[p.index]? with
  | none => rfl
  | some l =>
    change (if l.alive then _ else _) = muted Lifeline.mute (if l.alive then _ else _)
    split <;> rfl

/-- A check for two live ends decides the same without the texts. -/
theorem liveEnds_mute : d.mute.liveEnds sender target =
    muted (Prod.map Lifeline.mute Lifeline.mute) (d.liveEnds sender target) := by
  rw [liveEnds, liveEnds, liveLifeline_mute, liveLifeline_mute]
  symm
  exact muted_bind fun s => muted_bind fun t => rfl

end Diagram

namespace Op

variable {d : Diagram}

section

variable {α : Type} {f : α → α}

/-- An operation on one participant is muted with what it does on the participant. -/
theorem muted_live {p : Handle} {k k' : Lifeline → Except DrawError α}
    (h : ∀ l, muted f (k l) = k' l.mute) :
    d.mute.liveLifeline p >>= k' = muted f (d.liveLifeline p >>= k) := by
  rw [Diagram.liveLifeline_mute]
  exact (muted_bind h).symm

/-- An operation on a sender and a target is muted with what it does on the two. -/
theorem muted_ends {sender target : Handle} {k k' : Lifeline × Lifeline → Except DrawError α}
    (h : ∀ s t, muted f (k (s, t)) = k' (s.mute, t.mute)) :
    d.mute.liveEnds sender target >>= k' = muted f (d.liveEnds sender target >>= k) := by
  rw [Diagram.liveEnds_mute]
  exact (muted_bind fun ends => h ends.1 ends.2).symm

end

/-- The script of an operation muted is the script of the operation, muted. -/
theorem script_mute (d : Diagram) (op : Op) : op.mute.script d.mute =
    muted (Prod.map id (List.map Statement.mute)) (op.script d) := by
  -- the mute script makes the same checks, for none of them looks at a text
  cases op with
  | addParticipant | setMode | step | objectConstraint => simp [script, mute]
  | setParam name value =>
    simp only [script, mute, Diagram.mute_params]
    cases d.params.set name value <;> rfl
  | beginFrame | comment | lineConstraint | activate | delete =>
    exact muted_live fun l => by simp
  | endFrame right name steps =>
    refine muted_live fun l => ?_
    by_cases hn : name ∈ d.openFrames <;> simp [hn, DrawError.mute]
  | connectToComment p name =>
    refine muted_live fun l => ?_
    by_cases hn : name ∈ d.comments <;> simp [hn, DrawError.mute]
  | deactivate p =>
    refine muted_live fun l => ?_
    by_cases h0 : l.depth = 0 <;> simp [h0]
  | message | returnMessage | destroyInstance | pushMethod =>
    exact muted_ends fun s t => by simp
  | createInstance sender target label style =>
    refine muted_ends fun s t => ?_
    by_cases hc : t.created <;> simp [hc, DrawError.mute]
  | popMethod sender target response mode =>
    refine muted_ends fun s t => ?_
    by_cases h0 : t.depth = 0 <;> simp [h0]
  | callMethod sender target call =>
    refine muted_ends fun s t => ?_
    cases hr : call.response <;> simp [hr, Call.mute]

theorem newParams_mute (op : Op) (params : ParamSet) :
    op.mute.newParams params = op.newParams params := by
  cases op <;> rfl

/-- An operation muted does on the muted diagram what the operation does, muted. -/
theorem run_mute (hd : d.Named) (op : Op) :
    op.mute.run d.mute = (muted id (op.run d).1, (op.run d).2.mute) := by
  have hnames : d.mute.participantNames.Nodup := by
    rw [Diagram.participantNames_mute]
    exact hd.distinct
  rw [run_eq hnames, run_eq hd.distinct, script_mute]
  cases hs : op.script d with
  | error e => rfl
  | ok answer =>
    obtain ⟨reply, ss⟩ := answer
    change (Except.ok reply, { d.mute.writeAll (ss.map Statement.mute) with
      params := op.mute.newParams d.params }) = _
    rw [newParams_mute, ← Diagram.mute_writeAll (admits_script hd.distinct hs)]
    rfl

/-- A run muted is the run of the muted operations. -/
theorem runAll_mute (hd : d.Named) (ops : List Op) : runAll (ops.map mute) d.mute =
    ((runAll ops d).1.map (muted id), (runAll ops d).2.mute) := by
  induction ops generalizing d with
  | nil => rfl
  | cons op ops ih =>
    rw [List.map_cons, runAll, run_mute hd]
    dsimp only
    rw [ih (hd.run op)]
    rfl

end Op

/-! ### Runs that differ in texts alone -/

namespace Diagram

variable {d d' : Diagram}

/-- Diagrams equal but for their texts are alike. -/
theorem Alike.of_mute_eq (h : d.mute = d'.mute) : d.Alike d' := by
  obtain ⟨hlog, hlifelines, hparams, hopen, hcomments, hmode, hnames⟩ := Diagram.mk.inj h
  refine ⟨?_, hlifelines, hparams, hopen, hcomments, hmode, hnames⟩
  have houtline : Statement.outline = Statement.outline ∘ Statement.mute :=
    funext fun s => s.outline_mute.symm
  rw [houtline, ← List.map_map, hlog, List.map_map]

/-- Diagrams that are alike have the same live participants. -/
theorem Alike.liveNames (h : d.Alike d') : d.liveNames = d'.liveNames := by
  have hmute (d : Diagram) : d.liveNames =
      ((d.lifelines.map Lifeline.mute).filter Lifeline.alive).map Lifeline.name := by
    rw [Diagram.liveNames, List.filter_map, List.map_map]
    rfl
  rw [hmute d, hmute d', h.lifelines]

/-- Diagrams that are alike are finished together. -/
theorem Alike.finish (h : d.Alike d') :
    d.finish.map (fun doc => doc.statements.map Statement.outline) =
      d'.finish.map (fun doc => doc.statements.map Statement.outline) := by
  rw [Diagram.finish, Diagram.finish, ← h.openFrames, ← h.liveNames]
  split
  · simp [Except.map, h.log]
  · rfl

end Diagram

namespace Op

/-- Operations that differ in texts alone are refused at the same points, for the same
    reason, and are answered alike. They lead to diagrams that differ in texts alone and
    that are both finished or both refused. -/
theorem texts_opaque {ops ops' : List Op} (h : ops.map mute = ops'.map mute) :
    let d := (runAll ops .empty).2
    let d' := (runAll ops' .empty).2
    (runAll ops .empty).1.map (muted id) = (runAll ops' .empty).1.map (muted id) ∧
      d.Alike d' ∧
      d.finish.map (fun doc => doc.statements.map Statement.outline) =
        d'.finish.map (fun doc => doc.statements.map Statement.outline) := by
  intro d d'
  -- both runs are the same once their texts are taken out
  have hrun : ((runAll ops .empty).1.map (muted id), d.mute) =
      ((runAll ops' .empty).1.map (muted id), d'.mute) := by
    rw [← runAll_mute Diagram.named_empty, h, runAll_mute Diagram.named_empty]
  obtain ⟨hreplies, hd⟩ := Prod.mk.inj hrun
  have halike : d.Alike d' := .of_mute_eq hd
  exact ⟨hreplies, halike, halike.finish⟩

/-- An object that is created, a second time in vain, and called with a comment. -/
def labelled (label text : String) (c : Comment) : List Op :=
  [addParticipant (.object label), addParticipant .placeholder, beginFrame ⟨0⟩ text 1,
    createInstance ⟨0⟩ ⟨1⟩ label (some .async), createInstance ⟨0⟩ ⟨1⟩ text none,
    callMethod ⟨0⟩ ⟨1⟩ { request := text, response := some label }, comment ⟨1⟩ c,
    endFrame ⟨1⟩ (NameKind.frame.name 2) 0]

/-- Quotes, a line break, and the movement and the size of a comment make no difference. -/
theorem labelled_texts_opaque :
    let d := (runAll (labelled "a" "b" { text := "c" }) .empty).2
    let d' := (runAll (labelled "\"a" "line\nline"
      { text := "", movement := some "up 1", size := some "wid 2" }) .empty).2
    d.Alike d' ∧ d.log ≠ d'.log ∧
      d.finish.map (fun doc => doc.statements.map Statement.outline) =
        d'.finish.map (fun doc => doc.statements.map Statement.outline) := by
  intro d d'
  have hmute : (labelled "a" "b" { text := "c" }).map mute =
      (labelled "\"a" "line\nline"
        { text := "", movement := some "up 1", size := some "wid 2" }).map mute := rfl
  obtain ⟨-, alike, finished⟩ := texts_opaque hmute
  exact ⟨alike, by decide, finished⟩

end Op

end Lifelines
