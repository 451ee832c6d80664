import Lifelines.Proofs.Effect
import Lifelines.Proofs.Naming
import Mathlib.Data.List.Nodup

/-!
# Statements that may be written

What a diagram writes next depends on its state: participants are referred to
only while they are alive, a frame is closed only while it is open, a style is
set only if it is not in force, and new elements get names that have not been
used. `Diagram.Admissible` collects these rules, one for each macro.

* `Diagram.Accepts`: the same rules seen from the change of the state;
* `Diagram.Named`: names tell the elements of a diagram apart. Admissible
  statements keep it so (`Named.write`);
* `Diagram.Admits`: statements each of which is admissible when its turn comes.
-/

namespace Lifelines

namespace Diagram

variable (d : Diagram)

/-- A lifeline of the diagram that may be drawn on. -/
structure Alive (l : Lifeline) : Prop where
  mem : l ∈ d.lifelines
  alive : l.alive = true

/-- The statements that may be written next. -/
inductive Admissible : Statement → Prop
  | declaration (p : Participant) :
    Admissible (p.declaration (NameKind.participant.name d.names.issued))
  | mode {mode : SyncMode} : d.mode ≠ some mode → Admissible mode.statement
  | step : Admissible .step
  | beginFrame {l : Lifeline} (label : String) : d.Alive l →
    Admissible (.beginFrame l.name (NameKind.frame.name d.names.issued) label)
  | endFrame {l : Lifeline} {frame : String} : d.Alive l → frame ∈ d.openFrames →
    Admissible (.endFrame l.name frame)
  | comment {l : Lifeline} (movement : String) (size : Option String) (text : String) :
    d.Alive l →
      Admissible (.comment l.name (NameKind.comment.name d.names.issued) movement size text)
  | connectToComment {l : Lifeline} {comment : String} : d.Alive l → comment ∈ d.comments →
    Admissible (.connectToComment l.name comment)
  | objectConstraint (text : String) : Admissible (.objectConstraint text)
  | lineConstraint {l : Lifeline} (text : String) (below : Bool) : d.Alive l →
    Admissible (.lineConstraint l.name text below)
  | activate {l : Lifeline} : d.Alive l → Admissible (.activate l.name)
  | deactivate {l : Lifeline} : d.Alive l → 0 < l.depth → Admissible (.deactivate l.name)
  | message {s t : Lifeline} (text : String) : d.Alive s → d.Alive t →
    Admissible (.message s.name t.name text)
  | returnMessage {s t : Lifeline} (text : String) : d.Alive s → d.Alive t →
    Admissible (.returnMessage s.name t.name text)
  | createMessage {s t : Lifeline} (label : String) : d.Alive s → d.Alive t →
    t.created = false → Admissible (.createMessage s.name t.name label)
  | destroyMessage {s t : Lifeline} : d.Alive s → d.Alive t →
    Admissible (.destroyMessage s.name t.name)
  | delete {l : Lifeline} : d.Alive l → Admissible (.delete l.name)

/-- Statements each of which may be written after those before it. -/
def Admits : Diagram → List Statement → Prop
  | _, [] => True
  | d, s :: ss => d.Admissible s ∧ (d.write s).Admits ss

/-- The changes that admissible statements stand for. -/
def Accepts : Effect → Prop
  | .declare name _ _ => name = NameKind.participant.name d.names.issued
  | .style mode => d.mode ≠ some mode
  | .openFrame frame => frame = NameKind.frame.name d.names.issued
  | .closeFrame frame => frame ∈ d.openFrames
  | .note comment => comment = NameKind.comment.name d.names.issued
  | .activate name => ∃ l, d.Alive l ∧ l.name = name
  | .deactivate name => ∃ l, d.Alive l ∧ l.name = name ∧ 0 < l.depth
  | .create name _ => ∃ l, d.Alive l ∧ l.name = name ∧ l.created = false
  | .leave name => ∃ l, d.Alive l ∧ l.name = name
  | .none => True

variable {d}

@[simp]
theorem admits_nil : d.Admits [] := trivial

@[simp]
theorem admits_cons {s : Statement} {ss : List Statement} :
    d.Admits (s :: ss) ↔ d.Admissible s ∧ (d.write s).Admits ss := Iff.rfl

@[simp]
theorem admits_append {ss ts : List Statement} :
    d.Admits (ss ++ ts) ↔ d.Admits ss ∧ (d.writeAll ss).Admits ts := by
  induction ss generalizing d with
  | nil => simp
  | cons s ss ih => simp [ih, and_assoc]

/-- What an admissible statement changes is accepted by the diagram. -/
theorem Admissible.accepts {s : Statement} (h : d.Admissible s) : d.Accepts s.effect := by
  cases h with
  | declaration p => rw [Statement.effect_declaration]; rfl
  | mode hm => rw [Statement.effect_statement]; exact hm
  | lineConstraint => rw [Statement.effect_lineConstraint]; trivial
  | beginFrame | comment => rfl
  | endFrame _ hf => exact hf
  | activate hl | delete hl => exact ⟨_, hl, rfl⟩
  | deactivate hl hd => exact ⟨_, hl, rfl, hd⟩
  | createMessage _ _ ht hc => exact ⟨_, ht, rfl, hc⟩
  | destroyMessage _ ht => exact ⟨_, ht, rfl⟩
  | step | connectToComment | objectConstraint | message | returnMessage => trivial

section

variable {s : Statement} {n label : String}

/-- Only the message that creates a participant says so. -/
theorem Admissible.effect_eq_create_iff (h : d.Admissible s) :
    s.effect = .create n label ↔ ∃ sender, s = .createMessage sender n label := by
  constructor
  · intro he
    cases h <;> simp at he
    obtain ⟨rfl, rfl⟩ := he
    exact ⟨_, rfl⟩
  · rintro ⟨sender, rfl⟩
    rfl

/-- A participant leaves by being deleted or by a message that destroys it. -/
theorem Admissible.effect_eq_leave_iff (h : d.Admissible s) :
    s.effect = .leave n ↔ s = .delete n ∨ ∃ sender, s = .destroyMessage sender n := by
  constructor
  · intro he
    cases h <;> simp at he
    case destroyMessage => exact .inr ⟨_, by rw [he]⟩
    case delete => exact .inl (by rw [he])
  · rintro (rfl | ⟨sender, rfl⟩) <;> rfl

/-- What registers a participant is its declaration under the next name. -/
theorem Admissible.eq_declaration (h : d.Admissible s) {kind : ParticipantKind}
    {label : Option String} (he : s.effect = .declare n kind label) :
    n = NameKind.participant.name d.names.issued ∧
      ∃ p : Participant, s = p.declaration n ∧ p.kind = kind ∧ p.label = label := by
  cases h <;> simp at he
  obtain ⟨rfl, rfl, rfl⟩ := he
  exact ⟨rfl, _, rfl, rfl, rfl⟩

end

end Diagram

/-! ### The names that a statement refers to -/

/-- The name that a change introduces, if it introduces one. -/
def Effect.introduced? : Effect → Option String
  | .declare name _ _ => some name
  | .openFrame frame => some frame
  | .note comment => some comment
  | _ => Option.none

namespace Diagram

variable {d : Diagram} {s : Statement} {n : String}

/-- What an admissible statement refers to is alive, an open frame or a comment,
    or it is the element that the statement introduces. -/
theorem Admissible.known (h : d.Admissible s) (hn : s.references n) :
    (∃ l, d.Alive l ∧ l.name = n) ∨ n ∈ d.openFrames ∨ n ∈ d.comments ∨
      s.effect.introduced? = some n := by
  rw [Statement.references_iff] at hn
  -- what a statement names is what had to be there for it to be written, or is new
  cases h with
  | mode | step | objectConstraint => simp at hn
  | declaration p =>
    obtain rfl : n = NameKind.participant.name d.names.issued := by simpa using hn
    exact .inr (.inr (.inr (by simp [Effect.introduced?])))
  | beginFrame label hl =>
    obtain rfl | rfl : n = _ ∨ n = _ := by simpa using hn
    · exact .inl ⟨_, hl, rfl⟩
    · exact .inr (.inr (.inr rfl))
  | comment _ size text hl =>
    obtain rfl | rfl : n = _ ∨ n = _ := by simpa using hn
    · exact .inl ⟨_, hl, rfl⟩
    · exact .inr (.inr (.inr rfl))
  | endFrame hl hf =>
    obtain rfl | rfl : n = _ ∨ n = _ := by simpa using hn
    · exact .inl ⟨_, hl, rfl⟩
    · exact .inr (.inl hf)
  | connectToComment hl hc =>
    obtain rfl | rfl : n = _ ∨ n = _ := by simpa using hn
    · exact .inl ⟨_, hl, rfl⟩
    · exact .inr (.inr (.inl hc))
  | lineConstraint _ _ hl | activate hl | delete hl | deactivate hl =>
    obtain rfl : n = _ := by simpa using hn
    exact .inl ⟨_, hl, rfl⟩
  | message _ hs ht | returnMessage _ hs ht | createMessage _ hs ht | destroyMessage hs ht =>
    obtain rfl | rfl : n = _ ∨ n = _ := by simpa using hn
    · exact .inl ⟨_, hs, rfl⟩
    · exact .inl ⟨_, ht, rfl⟩

/-! ### What a statement adds -/

variable (d) in
/-- The names of the participants, in order. -/
def participantNames : List String :=
  d.lifelines.map Lifeline.name

/-- Changing what is kept about participants does not rename them. -/
theorem participantNames_change {f : Lifeline → Lifeline} (hf : ∀ l, (f l).name = l.name) :
    (d.change n f).participantNames = d.participantNames := by
  simp only [participantNames, change, List.map_map]
  apply List.map_congr_left
  intro l _
  by_cases hl : l.name = n <;> simp [hl, hf]

/-- A declaration adds a participant at the end; no other statement adds or renames one. -/
theorem participantNames_write : (d.write s).participantNames = d.participantNames ++
    match s.effect with
    | .declare name _ _ => [name]
    | _ => [] := by
  simp only [participantNames, lifelines_write, List.map_append, List.map_map]
  congr 1
  · exact List.map_congr_left fun l _ => l.name_after _
  · cases s.effect <;> rfl

/-- A frame is opened by the statement that begins it and by no other. -/
theorem mem_openFrames_write (h : n ∈ (d.write s).openFrames) :
    n ∈ d.openFrames ∨ s.effect = .openFrame n := by
  cases he : s.effect with
  | openFrame frame => simpa [write, apply, he, eq_comm] using h
  | closeFrame frame =>
    simp only [write, apply, he] at h
    exact .inl (List.mem_of_mem_erase h)
  | _ => exact .inl (by simpa [write, apply, change, he] using h)

/-- A comment is added by its own statement and by no other. -/
theorem mem_comments_write (h : n ∈ (d.write s).comments) :
    n ∈ d.comments ∨ s.effect = .note n := by
  cases he : s.effect with
  | note comment => simpa [write, apply, he, eq_comm] using h
  | _ => exact .inl (by simpa [write, apply, change, he] using h)

/-- A name is used up by a statement that introduces an element, and only by such a one. -/
theorem issued_write : (d.write s).names.issued = d.names.issued +
    if s.effect.introduced?.isSome then 1 else 0 := by
  cases he : s.effect <;> simp [write, apply, change, he, Effect.introduced?]

end Diagram

/-! ### Names tell elements apart -/

namespace Diagram

variable (d : Diagram)

/-- The name of a kind has been issued. -/
def Issued (kind : NameKind) (name : String) : Prop :=
  ∃ k < d.names.issued, name = kind.name k

/-- Each element of the diagram has a name of its kind that has been issued, no two
    participants share one, and the log refers to no other names. -/
structure Named : Prop where
  participants : ∀ n ∈ d.participantNames, d.Issued .participant n
  distinct : d.participantNames.Nodup
  frames : ∀ n ∈ d.openFrames, d.Issued .frame n
  comments : ∀ n ∈ d.comments, d.Issued .comment n
  log : ∀ s ∈ d.log, ∀ n ∈ s.names, ∃ kind, d.Issued kind n

variable {d} {s : Statement} {n : String}

/-- The empty diagram has no elements that could share a name. -/
theorem named_empty : empty.Named where
  participants := by simp [participantNames, empty]
  distinct := by simp [participantNames, empty]
  frames := by simp [empty]
  comments := by simp [empty]
  log := by simp [empty]

theorem Issued.write {kind : NameKind} (h : d.Issued kind n) : (d.write s).Issued kind n := by
  obtain ⟨k, hk, rfl⟩ := h
  exact ⟨k, by rw [issued_write]; omega, rfl⟩

/-- The next name is issued once a statement introduces it. -/
theorem issued_next {kind : NameKind} (h : s.effect.introduced? = some n)
    (hn : n = kind.name d.names.issued) : (d.write s).Issued kind n :=
  ⟨d.names.issued, by rw [issued_write, h]; simp, hn⟩

/-- The next name of a kind is new to the diagram. -/
theorem not_issued_next {kind kind' : NameKind} :
    ¬d.Issued kind (kind'.name d.names.issued) := by
  rintro ⟨k, hk, h⟩
  obtain ⟨_, rfl⟩ := NameKind.name_inj.1 h
  exact absurd hk (Nat.lt_irrefl _)

/-- The name that an admissible statement introduces is the next of its kind. -/
theorem Admissible.introduced (h : d.Admissible s) (hn : s.effect.introduced? = some n) :
    ∃ kind : NameKind, n = kind.name d.names.issued := by
  have ha := h.accepts
  cases he : s.effect with
  | declare | openFrame | note =>
    rw [he] at ha hn
    cases hn
    exact ⟨_, ha⟩
  | _ => simp [he, Effect.introduced?] at hn

/-- Names go on to tell the elements apart when an admissible statement is written: the only
    new name is the next one. -/
theorem Named.write (hd : d.Named) (h : d.Admissible s) : (d.write s).Named where
  participants n hn := by
    rw [participantNames_write, List.mem_append] at hn
    rcases hn with hn | hn
    · exact (hd.participants n hn).write
    · have ha := h.accepts
      cases he : s.effect with
      | declare name kind label =>
        rw [he] at hn ha
        obtain rfl := List.mem_singleton.1 hn
        exact issued_next (by rw [he]; rfl) ha
      | _ => simp [he] at hn
  distinct := by
    have ha := h.accepts
    rw [participantNames_write]
    cases he : s.effect with
    | declare name kind label =>
      rw [he] at ha
      refine List.nodup_append.2 ⟨hd.distinct, List.nodup_singleton _, ?_⟩
      rintro _ hn _ hn' rfl
      obtain rfl := List.mem_singleton.1 hn'
      exact not_issued_next (ha ▸ hd.participants _ hn)
    | _ => simpa using hd.distinct
  frames n hn := by
    rcases mem_openFrames_write hn with hn | he
    · exact (hd.frames n hn).write
    · have ha := h.accepts
      rw [he] at ha
      exact issued_next (by rw [he]; rfl) ha
  comments n hn := by
    rcases mem_comments_write hn with hn | he
    · exact (hd.comments n hn).write
    · have ha := h.accepts
      rw [he] at ha
      exact issued_next (by rw [he]; rfl) ha
  log t ht n hn := by
    rw [log_write, List.mem_append, List.mem_singleton] at ht
    rcases ht with ht | rfl
    · obtain ⟨kind, hk⟩ := hd.log t ht n hn
      exact ⟨kind, hk.write⟩
    -- the new statement refers to what has a name, or to what gets the next one
    rcases h.known (Statement.references_iff.2 hn) with ⟨l, hl, rfl⟩ | hf | hc | hi
    · exact ⟨_, (hd.participants _ (List.mem_map_of_mem hl.mem)).write⟩
    · exact ⟨_, (hd.frames n hf).write⟩
    · exact ⟨_, (hd.comments n hc).write⟩
    · obtain ⟨kind, hk⟩ := h.introduced hi
      exact ⟨kind, issued_next hi hk⟩

/-- A participant is known by its name. -/
theorem Named.eq_of_name_eq (hd : d.Named) {l l' : Lifeline} (hl : l ∈ d.lifelines)
    (hl' : l' ∈ d.lifelines) (h : l.name = l'.name) : l = l' :=
  List.inj_on_of_nodup_map hd.distinct hl hl' h

/-- Where an admissible statement refers to a participant, the participant is alive. -/
theorem Admissible.alive (h : d.Admissible s) (hd : d.Named) {l : Lifeline}
    (hl : l ∈ d.lifelines) (hn : s.references l.name) : l.alive = true := by
  obtain ⟨k, hk, hname⟩ := hd.participants _ (List.mem_map_of_mem hl)
  -- names of other kinds are other names, and so is one that is only introduced
  rcases h.known hn with ⟨l', hl', he⟩ | hf | hc | hi
  · obtain rfl := hd.eq_of_name_eq hl'.mem hl he
    exact hl'.alive
  · obtain ⟨k', _, he⟩ := hd.frames _ hf
    simp [hname] at he
  · obtain ⟨k', _, he⟩ := hd.comments _ hc
    simp [hname] at he
  · obtain ⟨kind, he⟩ := h.introduced hi
    rw [hname, NameKind.name_inj] at he
    omega

/-- The log does not refer to the next name of a kind. -/
theorem Named.fresh (hd : d.Named) {t : Statement} (ht : t ∈ d.log) (kind : NameKind) :
    kind.name d.names.issued ∉ t.names := by
  intro hn
  obtain ⟨_, hi⟩ := hd.log t ht _ hn
  exact not_issued_next hi

section

variable {l : Lifeline} (hd : d.Named) (hl : l ∈ d.lifelines)

include hd hl

/-- A lifeline is not registered again. -/
theorem Admissible.not_declare (h : d.Admissible s) (kind : ParticipantKind)
    (label : Option String) : s.effect ≠ .declare l.name kind label := by
  intro he
  have hi := hd.participants _ (List.mem_map_of_mem hl)
  rw [(h.eq_declaration he).1] at hi
  exact not_issued_next hi

/-- Only a bar that has started ends. -/
theorem Admissible.depth_pos (h : d.Admissible s) (he : s.effect = .deactivate l.name) :
    0 < l.depth := by
  have ha := h.accepts
  rw [he] at ha
  obtain ⟨l', hl', hn, hdepth⟩ := ha
  rwa [← hd.eq_of_name_eq hl'.mem hl hn]

/-- A participant is created at most once. -/
theorem Admissible.not_created (h : d.Admissible s) {label : String}
    (he : s.effect = .create l.name label) : l.created = false := by
  have ha := h.accepts
  rw [he] at ha
  obtain ⟨l', hl', hn, hc⟩ := ha
  rwa [← hd.eq_of_name_eq hl'.mem hl hn]

end

end Diagram

end Lifelines
