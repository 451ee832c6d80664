import Lifelines.Proofs.Replay
import Mathlib.Data.List.Chain

/-!
# The style that messages are drawn in

A message is drawn in the style that was set last before it, so its style is not
to be seen from the message alone. Switches to the style that is already in force
are left out, and a message in a style of its own is followed by a switch back.
What an operation asks for is nevertheless what a reader of the log sees: the
style that a diagram keeps is the one set last, whatever was drawn before.

* `Statement.drawn`: the messages among some statements, each with its style;
* `Op.messages`: the messages of an operation, each with the style asked for;
* `Diagram.Scoped`: what a message in a style of its own leaves behind;
* `Diagram.Reachable.styles_kept`: the two styles alternate in a log, and every
  operation draws its messages as asked for.
-/

namespace Lifelines

/-! ### Messages in a log -/

/-- The style that a change puts in force. -/
def Effect.style? : Effect → Option SyncMode
  | style mode => some mode
  | _ => .none

namespace Statement

/-- Whether a statement draws a message of some sort. -/
def isMessage (s : Statement) : Bool :=
  ["message", "rmessage", "cmessage", "dmessage"].contains s.name

/-- The messages among some statements, each with the style that is set last before
    it; a style may be in force to begin with. -/
def drawn : Option SyncMode → List Statement → List (Option SyncMode × Statement)
  | _, [] => []
  | mode, s :: ss =>
    (if s.isMessage then [(mode, s)] else []) ++ drawn (s.style?.or mode) ss

/-- The style a statement selects is the one of its effect. -/
theorem style?_eq_effect (s : Statement) : s.style? = s.effect.style? := by
  cases hs : s.style? with
  | some mode =>
    rw [style?_eq_some_iff.1 hs]
    rfl
  | none =>
    cases he : s.effect with
    | style mode =>
      rw [style?_eq_some_iff.2 he] at hs
      cases hs
    | _ => rfl

section

variable {s : Statement} {mode before : Option SyncMode} {ss : List Statement}

/-- What two lists of statements draw: the second starts in the style the first ends in. -/
theorem drawn_append (ss ts : List Statement) : drawn mode (ss ++ ts) =
    drawn mode ss ++ drawn ((ss.filterMap style?).getLast?.or mode) ts := by
  induction ss generalizing mode with
  | nil => rfl
  | cons s ss ih =>
    rw [List.cons_append, drawn, drawn, ih, List.append_assoc]
    cases hs : s.style? <;> simp [hs, List.getLast?_cons]

/-- A message is drawn in the style that is set last before it, wherever it stands. -/
theorem mem_drawn_iff : (mode, s) ∈ drawn before ss ↔ s.isMessage ∧
    ∃ pre post, ss = pre ++ s :: post ∧ mode = (pre.filterMap style?).getLast?.or before := by
  constructor
  · intro h
    induction ss generalizing before with
    | nil => cases h
    | cons t ss ih =>
      rw [drawn, List.mem_append] at h
      rcases h with h | h
      · have ⟨ht, heq⟩ : t.isMessage = true ∧ (mode, s) = (before, t) := by simpa using h
        obtain ⟨rfl, rfl⟩ := Prod.mk.inj heq
        exact ⟨ht, [], ss, rfl, rfl⟩
      · obtain ⟨hs, pre, post, rfl, rfl⟩ := ih h
        refine ⟨hs, t :: pre, post, rfl, ?_⟩
        cases ht : t.style? <;> simp [ht, List.getLast?_cons]
  · rintro ⟨hs, pre, post, rfl, rfl⟩
    rw [drawn_append, drawn, hs]
    simp

@[simp]
theorem drawn_nil : drawn mode [] = [] := rfl

/-- A message is drawn in the style in force. -/
theorem drawn_cons_message (hm : s.isMessage) (hs : s.effect.style? = none) :
    drawn mode (s :: ss) = (mode, s) :: drawn mode ss := by
  rw [drawn, hm, style?_eq_effect, hs]
  rfl

/-- A statement that is no message and selects no style draws nothing. -/
theorem drawn_cons_other (hm : s.isMessage = false) (hs : s.effect.style? = none) :
    drawn mode (s :: ss) = drawn mode ss := by
  rw [drawn, hm, style?_eq_effect, hs]
  rfl

/-- A style statement puts its style in force for what follows it. -/
theorem drawn_cons_mode (mode : SyncMode) (before : Option SyncMode) :
    drawn before (mode.statement :: ss) = drawn (some mode) ss := by
  rw [drawn, style?_eq_effect, effect_statement]
  cases mode <;> rfl

/-- After a switch, made or not needed, the style asked for is in force. -/
theorem drawn_switch (before : Option SyncMode) (mode : SyncMode) (ss : List Statement) :
    drawn before (SyncMode.switch before mode ++ ss) = drawn (some mode) ss := by
  rw [SyncMode.switch]
  split
  · next h => rw [h, List.nil_append]
  · exact drawn_cons_mode mode before

/-- Steps draw nothing. -/
theorem drawn_replicate_step (mode : Option SyncMode) (n : Nat) (ss : List Statement) :
    drawn mode (List.replicate n .step ++ ss) = drawn mode ss := by
  induction n with
  | zero => rfl
  | succ n ih => rw [List.replicate_succ, List.cons_append, drawn_cons_other rfl rfl, ih]

/-- A message in a style of its own is the only one that is drawn. -/
theorem drawn_around (style : Option SyncMode) (hm : s.isMessage) (hs : s.effect.style? = none) :
    drawn before (SyncMode.around before style s) = [(style.or before, s)] := by
  cases style with
  | none => cases before <;> exact drawn_cons_message hm hs
  | some mode =>
    cases before with
    | none =>
      rw [SyncMode.around, drawn_switch, drawn_cons_message hm hs]
      rfl
    | some old =>
      -- the switch back comes after the message and draws nothing
      have hback := drawn_switch (some mode) old []
      rw [List.append_nil, drawn_nil] at hback
      rw [SyncMode.around, drawn_switch, drawn_cons_message hm hs, hback]
      rfl

end

end Statement

/-! ### Messages of an operation -/

/-- The name behind a handle. -/
def Diagram.nameOf (d : Diagram) (p : Handle) : String :=
  match d.lifelines[p.index]? with
  | some l => l.name
  | none => ""

/-- The messages that an operation draws, each with the style asked for, if there is
    one. -/
def Op.messages (d : Diagram) : Op → List (Option SyncMode × Statement)
  | message sender target text => [(none, .message (d.nameOf sender) (d.nameOf target) text)]
  | returnMessage sender target text =>
    [(none, .returnMessage (d.nameOf sender) (d.nameOf target) text)]
  | createInstance sender target label style =>
    [(style, .createMessage (d.nameOf sender) (d.nameOf target) label)]
  | destroyInstance sender target style =>
    [(style, .destroyMessage (d.nameOf sender) (d.nameOf target))]
  | pushMethod sender target request mode =>
    [(some mode, .message (d.nameOf sender) (d.nameOf target) request)]
  | popMethod sender target response mode =>
    [(some mode, .returnMessage (d.nameOf target) (d.nameOf sender) response)]
  | callMethod sender target call =>
    (some call.requestMode, .message (d.nameOf sender) (d.nameOf target) call.request) ::
      match call.response with
      | some response =>
        [(some call.responseMode,
          .returnMessage (d.nameOf target) (d.nameOf sender) response)]
      | none => []
  | _ => []

namespace Diagram

variable {d d' : Diagram} {sender target : Handle}

theorem nameOf_eq {p : Handle} {l : Lifeline} (h : d.liveLifeline p = .ok l) :
    d.nameOf p = l.name := by
  rw [nameOf, (liveLifeline_eq_ok_iff.1 h).1]

/-- The names of two live ends are their lifelines'. -/
theorem names_of_liveEnds {s t : Lifeline} (h : d.liveEnds sender target = .ok (s, t)) :
    d.nameOf sender = s.name ∧ d.nameOf target = t.name :=
  have ⟨hs, ht⟩ := liveEnds_eq_ok_iff.1 h
  ⟨nameOf_eq hs, nameOf_eq ht⟩

end Diagram

open Statement in
/-- What an operation writes draws its messages, each in the style asked for, and
    otherwise in the one in force. -/
theorem Op.drawn_script {d : Diagram} {op : Op} {reply : Reply} {ss : List Statement}
    (h : op.script d = .ok (reply, ss)) : Statement.drawn d.mode ss =
      (op.messages d).map fun (style, s) => (style.or d.mode, s) := by
  -- a script is read from the front, up to where its messages are in their style
  cases op with
  | addParticipant p => cases h; cases p <;> rfl
  | setMode mode =>
    cases h
    simpa [messages] using drawn_switch d.mode mode []
  | step n =>
    cases h
    simpa [messages] using drawn_replicate_step d.mode n []
  | beginFrame left label steps =>
    obtain ⟨l, -, h⟩ := exists_of_bind_eq_ok h
    cases h
    rw [drawn_replicate_step, drawn_cons_other rfl rfl]
    rfl
  | endFrame right name steps =>
    obtain ⟨l, -, h⟩ := exists_of_bind_eq_ok h
    split at h <;> cases h
    rw [drawn_replicate_step, drawn_cons_other rfl rfl]
    rfl
  | comment p c =>
    obtain ⟨l, -, h⟩ := exists_of_bind_eq_ok h
    cases h
    rfl
  | connectToComment p name =>
    obtain ⟨l, -, h⟩ := exists_of_bind_eq_ok h
    split at h <;> cases h
    rfl
  | objectConstraint text => cases h; rfl
  | lineConstraint p text below =>
    obtain ⟨l, -, h⟩ := exists_of_bind_eq_ok h
    cases h
    cases below <;> rfl
  | setParam name value =>
    simp only [script] at h
    split at h <;> cases h
    rfl
  | activate p | delete p =>
    obtain ⟨l, -, h⟩ := exists_of_bind_eq_ok h
    cases h
    rfl
  | deactivate p =>
    obtain ⟨l, -, h⟩ := exists_of_bind_eq_ok h
    cases h
    split <;> rfl
  | message sender target text | returnMessage sender target text =>
    obtain ⟨⟨s, t⟩, hends, h⟩ := exists_of_bind_eq_ok h
    cases h
    obtain ⟨hs, ht⟩ := Diagram.names_of_liveEnds hends
    rw [messages, hs, ht]
    rfl
  | createInstance sender target label style =>
    obtain ⟨⟨s, t⟩, hends, h⟩ := exists_of_bind_eq_ok h
    dsimp only at h
    split at h <;> cases h
    obtain ⟨hs, ht⟩ := Diagram.names_of_liveEnds hends
    rw [messages, hs, ht, drawn_around style rfl rfl]
    rfl
  | destroyInstance sender target style =>
    obtain ⟨⟨s, t⟩, hends, h⟩ := exists_of_bind_eq_ok h
    cases h
    obtain ⟨hs, ht⟩ := Diagram.names_of_liveEnds hends
    rw [messages, hs, ht, drawn_around style rfl rfl]
    rfl
  | pushMethod sender target request mode =>
    obtain ⟨⟨s, t⟩, hends, h⟩ := exists_of_bind_eq_ok h
    cases h
    obtain ⟨hs, ht⟩ := Diagram.names_of_liveEnds hends
    rw [messages, hs, ht, List.cons_append, drawn_cons_other rfl rfl, drawn_switch]
    rfl
  | popMethod sender target response mode =>
    obtain ⟨⟨s, t⟩, hends, h⟩ := exists_of_bind_eq_ok h
    cases h
    obtain ⟨hs, ht⟩ := Diagram.names_of_liveEnds hends
    rw [messages, hs, ht, List.append_assoc, drawn_switch]
    split <;> rfl
  | callMethod sender target call =>
    obtain ⟨⟨s, t⟩, hends, h⟩ := exists_of_bind_eq_ok h
    cases h
    obtain ⟨hs, ht⟩ := Diagram.names_of_liveEnds hends
    rw [messages, hs, ht]
    simp only [List.cons_append, List.append_assoc]
    rw [drawn_cons_other rfl rfl, drawn_switch, drawn_cons_message rfl rfl]
    cases call.response with
    | none => rfl
    | some response =>
      simp only [List.cons_append, List.append_assoc]
      rw [drawn_cons_other rfl rfl, drawn_replicate_step, drawn_switch]
      rfl

/-! ### Styles in a log -/

namespace Diagram

variable {d d' : Diagram} {style : Option SyncMode} {s : Statement}

/-- What a message in a style of its own, if one is given, leaves behind. -/
structure Scoped (d d' : Diagram) (style : Option SyncMode) (s : Statement) : Prop where
  /-- Without a style the message is drawn alone. -/
  alone : style = none → d'.log = d.log ++ [s] ∧ d'.mode = d.mode
  /-- The style stays in force where none was before. -/
  stays : ∀ m, style = some m → d.mode = none →
    d'.log = d.log ++ [m.statement, s] ∧ d'.mode = some m
  /-- The style before is in force again, after a switch there and back if it is
      another one. -/
  restored : ∀ m old, style = some m → d.mode = some old →
    d'.log = d.log ++ (if m = old then [s] else [m.statement, s, old.statement]) ∧
      d'.mode = some old

/-- A message written within a style of its own leaves the style in force that was in force
    before, if there was one. -/
theorem scoped_around {n : String} {f : Lifeline → Lifeline}
    (hs : ∀ d : Diagram, d.apply s.effect = d.change n f)
    (hlog : d'.log = (d.writeAll (SyncMode.around d.mode style s)).log)
    (hmode : d'.mode = (d.writeAll (SyncMode.around d.mode style s)).mode) :
    Scoped d d' style s := by
  rw [Draw.writeAll_around hs] at hlog hmode
  constructor
  · rintro rfl
    refine ⟨?_, by rw [hmode, Option.or_none]⟩
    rw [hlog]
    cases d.mode <;> rfl
  · rintro m rfl hnone
    rw [hlog, hmode, hnone]
    exact ⟨rfl, rfl⟩
  · rintro m old rfl hold
    rw [hlog, hmode, hold]
    refine ⟨?_, rfl⟩
    by_cases hm : m = old
    · simp [SyncMode.around, SyncMode.switch, hm]
    · simp [SyncMode.around, SyncMode.switch, hm, Ne.symm hm]

/-- A creation draws its message in the style asked for and restores the one in force. -/
theorem scoped_createInstance (hd : d.Named) {sender target : Handle} {label : String}
    {reply : Reply}
    (h : (Op.createInstance sender target label style).run d = (.ok reply, d')) :
    Scoped d d' style (.createMessage (d.nameOf sender) (d.nameOf target) label) := by
  obtain ⟨ss, hscript, rfl⟩ := Op.script_of_run hd.distinct h
  obtain ⟨⟨s, t⟩, hends, hscript⟩ := exists_of_bind_eq_ok hscript
  dsimp only at hscript
  split at hscript <;> cases hscript
  obtain ⟨hs, ht⟩ := names_of_liveEnds hends
  rw [hs, ht]
  exact scoped_around (fun _ => rfl) rfl rfl

/-- A destruction draws its message in the style asked for and restores the one in force. -/
theorem scoped_destroyInstance (hd : d.Named) {sender target : Handle} {reply : Reply}
    (h : (Op.destroyInstance sender target style).run d = (.ok reply, d')) :
    Scoped d d' style (.destroyMessage (d.nameOf sender) (d.nameOf target)) := by
  obtain ⟨ss, hscript, rfl⟩ := Op.script_of_run hd.distinct h
  obtain ⟨⟨s, t⟩, hends, hscript⟩ := exists_of_bind_eq_ok hscript
  cases hscript
  obtain ⟨hs, ht⟩ := names_of_liveEnds hends
  rw [hs, ht]
  exact scoped_around (fun _ => rfl) rfl rfl

/-- A statement that switches to a style is written only when another one is in force. -/
theorem Admissible.ne_mode (hs : d.Admissible s) {mode : SyncMode} (h : s.style? = some mode) :
    d.mode ≠ some mode := by
  have ha := hs.accepts
  rwa [Statement.style?_eq_some_iff.1 h] at ha

/-- No two style statements of a log in a row select the same style. -/
theorem Reachable.isChain_styles (h : d.Reachable) :
    (d.log.filterMap Statement.style?).IsChain (· ≠ ·) := by
  -- the style in force is carried along: a new one is only written if it differs
  suffices hd : (d.log.filterMap Statement.style?).IsChain (· ≠ ·) ∧
      d.mode = (d.log.filterMap Statement.style?).getLast? from hd.1
  refine h.induct (motive := fun d => (d.log.filterMap Statement.style?).IsChain (· ≠ ·) ∧
    d.mode = (d.log.filterMap Statement.style?).getLast?) ⟨.nil, rfl⟩ ?_ fun _ _ ih => ih
  intro d s _ hs ⟨hchain, hmode⟩
  refine ⟨?_, mode_write_eq_getLast? hmode⟩
  rw [styles_write, List.isChain_append]
  refine ⟨hchain, by cases s.style? <;> simp, ?_⟩
  intro last hlast mode hhead
  rw [← hmode] at hlast
  cases hstyle : s.style? with
  | none => simp [hstyle] at hhead
  | some mode' =>
    obtain rfl : mode' = mode := by simpa [hstyle] using hhead
    rintro rfl
    exact hs.ne_mode hstyle hlast

/-- The messages that an operation adds to the log are those it is to draw, each in the
    style asked for, or in the one in force if none is. -/
theorem Reachable.drawn_log (h : d.Reachable) {op : Op} {reply : Reply}
    (hop : op.run d = (.ok reply, d')) : Statement.drawn none d'.log =
      Statement.drawn none d.log ++ (op.messages d).map fun (style, s) => (style.or d.mode, s) := by
  obtain ⟨ss, hscript, rfl⟩ := Op.script_of_run h.named.distinct hop
  rw [log_writeAll, Statement.drawn_append, ← h.mode_eq, Option.or_none,
    Op.drawn_script hscript]

/-- In a log the two styles alternate, and the last one is in force. A message is drawn in
    the style that is set last before it. Every operation draws its messages in the style
    that is asked for, and a message in a style of its own leaves the style in force as it
    was, if there was one. -/
theorem Reachable.styles_kept (h : d.Reachable) :
    (d.log.filterMap Statement.style?).IsChain (· ≠ ·) ∧
      d.mode = (d.log.filterMap Statement.style?).getLast? ∧
      (∀ style s, (style, s) ∈ Statement.drawn none d.log ↔ s.isMessage ∧
        ∃ pre post, d.log = pre ++ s :: post ∧
          style = (pre.filterMap Statement.style?).getLast?) ∧
      (∀ (op : Op) (reply : Reply) (d' : Diagram), op.run d = (.ok reply, d') →
        Statement.drawn none d'.log = Statement.drawn none d.log ++
          (op.messages d).map fun (style, s) => (style.or d.mode, s)) ∧
      (∀ sender target label style reply d',
        (Op.createInstance sender target label style).run d = (.ok reply, d') →
          Scoped d d' style (.createMessage (d.nameOf sender) (d.nameOf target) label)) ∧
      ∀ sender target style reply d',
        (Op.destroyInstance sender target style).run d = (.ok reply, d') →
          Scoped d d' style (.destroyMessage (d.nameOf sender) (d.nameOf target)) := by
  refine ⟨h.isChain_styles, h.mode_eq, ?_, fun _ _ _ => h.drawn_log,
    fun _ _ _ _ _ _ => scoped_createInstance h.named,
    fun _ _ _ _ _ => scoped_destroyInstance h.named⟩
  intro style s
  simp only [Statement.mem_drawn_iff, Option.or_none]

/-- Two objects, and a style in force. -/
def twoObjects : List Op :=
  [.addParticipant (.object "a"), .addParticipant (.object "b"), .setMode .sync]

/-- The one object destroys the other by a message in the other style. -/
theorem destruction_scoped :
    let d := (Op.runAll twoObjects .empty).2
    let d' := ((Op.destroyInstance ⟨0⟩ ⟨1⟩ (some .async)).run d).2
    d.Reachable ∧ d'.mode = some .sync ∧ Scoped d d' (some .async)
      (.destroyMessage (NameKind.participant.name 0) (NameKind.participant.name 1)) := by
  have reached : (Op.runAll twoObjects .empty).2.Reachable := ⟨_, rfl⟩
  obtain ⟨-, -, -, -, -, destroyed⟩ := reached.styles_kept
  have hscoped := destroyed ⟨0⟩ ⟨1⟩ (some .async) .done _ rfl
  exact ⟨reached, (hscoped.restored .async .sync rfl rfl).2, hscoped⟩

end Diagram

end Lifelines
