import Lifelines.Proofs.Reachable

/-!
# Names in the order of their issue

One counter numbers participants, frames and comments alike. An operation draws
a number only when nothing can refuse it any more, so no number is lost on a
refusal, and each goes with a statement that introduces the element. Read in
order, the introductions in a log are therefore numbered from zero.

* `Statement.introductions`: the elements that statements introduce, with kinds;
* `Op.elements`: the elements that the operations of a run have added, by what
  their callers were answered;
* `Diagram.Numbered`: elements that carry the numbers from zero, all names apart;
* `Op.names_of_run`: the elements of every run are numbered, whatever was refused
  on the way.
-/

namespace Lifelines

/-- The element that a change introduces, with its kind. -/
def Effect.introduction? : Effect → Option (NameKind × String)
  | .declare name _ _ => some (.participant, name)
  | .openFrame frame => some (.frame, frame)
  | .note comment => some (.comment, comment)
  | _ => Option.none

/-- The elements that statements introduce, in order. -/
def Statement.introductions (ss : List Statement) : List (NameKind × String) :=
  ss.filterMap (·.effect.introduction?)

/-- The names among some elements that are of a kind. -/
def NameKind.select (kind : NameKind) (elements : List (NameKind × String)) : List String :=
  (elements.filter (·.1 = kind)).map Prod.snd

/-- The kind of the element that an operation adds. -/
def Op.adds? : Op → Option NameKind
  | addParticipant _ => some .participant
  | beginFrame .. => some .frame
  | comment .. => some .comment
  | _ => none

/-- The name of the element that an answer stands for. -/
def Reply.element? (d : Diagram) : Reply → Option String
  | done => none
  | handle p => d.participantNames[p.index]?
  | name n => some n

/-- The element that an operation adds to a diagram, by what the operation answers. -/
def Op.element? (op : Op) (d : Diagram) : Option (NameKind × String) := do
  let (reply, d') := op.run d
  let kind ← op.adds?
  let answer ← reply.toOption
  let n ← answer.element? d'
  return (kind, n)

/-- The elements that some operations add one after the other, by what they answer. -/
def Op.elements : List Op → Diagram → List (NameKind × String)
  | [], _ => []
  | op :: ops, d => (op.element? d).toList ++ elements ops (op.run d).2

/-- The elements of a diagram in the order of their issue. Each has the letter of its
    kind and its number for a name. -/
structure Diagram.Numbered (d : Diagram) (elements : List (NameKind × String)) : Prop where
  introductions : Statement.introductions d.log = elements
  counted : elements.length = d.names.issued
  numbered : ∀ (i : Nat) (kind : NameKind) (n : String),
    elements[i]? = some (kind, n) → n = kind.name i
  participants : d.participantNames = NameKind.participant.select elements
  comments : d.comments = NameKind.comment.select elements
  openFrames : ∀ frame ∈ d.openFrames, (.frame, frame) ∈ elements

/-! ### Introductions -/

theorem Effect.introduced?_eq (e : Effect) : e.introduced? = e.introduction?.map Prod.snd := by
  cases e <;> rfl

namespace NameKind

variable {kind : NameKind} {elements more : List (NameKind × String)} {n : String}

@[simp]
theorem select_append :
    kind.select (elements ++ more) = kind.select elements ++ kind.select more := by
  simp [select]

@[simp]
theorem mem_select_iff : n ∈ kind.select elements ↔ (kind, n) ∈ elements := by
  simp [select]

end NameKind

namespace Statement

variable {s : Statement} {ss ts : List Statement}

@[simp]
theorem introductions_nil : introductions [] = [] := rfl

@[simp]
theorem introductions_cons :
    introductions (s :: ss) = s.effect.introduction?.toList ++ introductions ss := by
  rw [introductions, List.filterMap_cons]
  cases h : s.effect.introduction? <;> simp [introductions]

@[simp]
theorem introductions_append : introductions (ss ++ ts) = introductions ss ++ introductions ts :=
  List.filterMap_append

@[simp]
theorem introductions_replicate_step (n : Nat) : introductions (List.replicate n .step) = [] :=
  List.filterMap_replicate_of_none rfl

@[simp]
theorem introductions_switch (before : Option SyncMode) (mode : SyncMode) :
    introductions (SyncMode.switch before mode) = [] := by
  unfold SyncMode.switch
  split <;> simp [Effect.introduction?]

@[simp]
theorem introductions_around (before style : Option SyncMode) :
    introductions (SyncMode.around before style s) = s.effect.introduction?.toList := by
  unfold SyncMode.around
  split <;> simp

/-- A name is introduced as often as the elements have it. -/
theorem countP_introduced (ss : List Statement) (n : String) :
    ss.countP (·.effect.introduced? = some n) = ((introductions ss).map Prod.snd).count n := by
  induction ss with
  | nil => rfl
  | cons s ss ih =>
    rw [List.countP_cons, ih, introductions_cons, List.map_append, List.count_append,
      Effect.introduced?_eq, Nat.add_comm]
    cases s.effect.introduction? <;> simp [List.count_singleton]

end Statement

/-! ### While the log is written -/

namespace Diagram

variable {d : Diagram} {s : Statement}

/-- What an admissible statement introduces has the next name of its kind. -/
theorem Admissible.introduction_eq (h : d.Admissible s) {kind : NameKind} {n : String}
    (he : s.effect.introduction? = some (kind, n)) : n = kind.name d.names.issued := by
  have ha := h.accepts
  cases hs : s.effect with
  | declare | openFrame | note =>
    rw [hs] at ha he
    cases he
    exact ha
  | _ => simp [hs, Effect.introduction?] at he

theorem numbered_empty : empty.Numbered [] := by
  constructor <;> simp [empty, participantNames, NameKind.select]

theorem Numbered.params {elements : List (NameKind × String)} (h : d.Numbered elements)
    (params : ParamSet) : { d with params := params }.Numbered elements :=
  ⟨h.introductions, h.counted, h.numbered, h.participants, h.comments, h.openFrames⟩

variable {elements : List (NameKind × String)}

/-- An element that a statement introduces gets the next number and goes to the end of the list
    of its kind. -/
theorem Numbered.write (h : d.Numbered elements) (hs : d.Admissible s) :
    (d.write s).Numbered (elements ++ s.effect.introduction?.toList) where
  introductions := by
    rw [log_write, Statement.introductions_append, h.introductions]
    simp
  counted := by
    rw [List.length_append, h.counted, issued_write, Effect.introduced?_eq]
    cases s.effect.introduction? <;> rfl
  numbered i kind n hi := by
    cases he : s.effect.introduction? with
    | none => exact h.numbered i kind n (by simpa [he] using hi)
    | some element =>
      rw [he, Option.toList_some, List.getElem?_append] at hi
      split at hi
      · exact h.numbered i kind n hi
      · next hlt =>
        -- the new element carries the next number
        obtain ⟨hi, rfl⟩ : i - elements.length = 0 ∧ element = (kind, n) := by
          simpa [List.getElem?_singleton] using hi
        rw [hs.introduction_eq he, ← h.counted]
        congr
        omega
  participants := by
    rw [participantNames_write, h.participants, NameKind.select_append]
    cases s.effect <;> rfl
  comments := by
    rw [NameKind.select_append, ← h.comments]
    cases he : s.effect <;>
      simp [Diagram.write, apply, change, he, Effect.introduction?, NameKind.select]
  openFrames frame hf := by
    rw [List.mem_append]
    rcases mem_openFrames_write hf with hf | he
    · exact .inl (h.openFrames frame hf)
    · simp [he, Effect.introduction?]

/-- What numbers the elements tells their names apart. -/
theorem Numbered.nodup_names (h : d.Numbered elements) : (elements.map Prod.snd).Nodup := by
  rw [List.Nodup, List.pairwise_map, List.pairwise_iff_getElem]
  intro i j hi hj hij heq
  have hname : ∀ k (hk : k < elements.length), elements[k].2 = elements[k].1.name k :=
    fun k hk => h.numbered k _ _ (List.getElem?_eq_getElem hk)
  rw [hname i hi, hname j hj, NameKind.name_inj] at heq
  omega

/-- Each element has been introduced by exactly one statement. -/
theorem Numbered.countP_introduced (h : d.Numbered elements) {kind : NameKind} {n : String}
    (hn : (kind, n) ∈ elements) : d.log.countP (·.effect.introduced? = some n) = 1 := by
  rw [Statement.countP_introduced, h.introductions]
  exact List.count_eq_one_of_mem h.nodup_names (List.mem_map_of_mem hn)

/-- Elements are numbered in turn by several statements, each admissible in its turn. -/
theorem Numbered.writeAll {ss : List Statement} (h : d.Numbered elements) (hs : d.Admits ss) :
    (d.writeAll ss).Numbered (elements ++ Statement.introductions ss) := by
  induction ss generalizing d elements with
  | nil => simpa using h
  | cons s ss ih =>
    rw [Statement.introductions_cons, ← List.append_assoc]
    exact ih (h.write hs.1) hs.2

end Diagram

/-! ### What operations introduce -/

/-- What the caller is given of the next element of a kind. -/
def NameKind.answer (d : Diagram) : NameKind → Reply
  | participant => .handle ⟨d.lifelines.length⟩
  | frame => .name (NameKind.frame.name d.names.issued)
  | comment => .name (NameKind.comment.name d.names.issued)

/-- An operation introduces the next element of the kind that it adds, and answers it. -/
theorem Op.introductions_script {op : Op} {d : Diagram} {reply : Reply} {ss : List Statement}
    (h : op.script d = .ok (reply, ss)) : reply = op.adds?.elim .done (NameKind.answer d) ∧
      Statement.introductions ss =
        (op.adds?.map fun kind => (kind, kind.name d.names.issued)).toList := by
  unfold script at h
  cases op with
  | addParticipant | setMode | step | objectConstraint =>
    cases h
    simp [Effect.introduction?, adds?, NameKind.answer]
  | setParam =>
    dsimp only at h
    split at h <;> cases h
    simp [adds?]
  -- the others need participants that are alive
  | beginFrame | comment | lineConstraint | activate | delete | message | returnMessage
  | destroyInstance | pushMethod =>
    obtain ⟨l, -, h⟩ := exists_of_bind_eq_ok h
    cases h
    simp [Effect.introduction?, adds?, NameKind.answer]
  | endFrame | connectToComment =>
    obtain ⟨l, -, h⟩ := exists_of_bind_eq_ok h
    split at h <;> cases h
    simp [Effect.introduction?, adds?]
  | createInstance =>
    obtain ⟨⟨s, t⟩, -, h⟩ := exists_of_bind_eq_ok h
    dsimp only at h
    split at h <;> cases h
    simp [Effect.introduction?, adds?]
  | deactivate | popMethod =>
    obtain ⟨l, -, h⟩ := exists_of_bind_eq_ok h
    cases h
    split <;> simp [Effect.introduction?, adds?]
  | callMethod sender target call =>
    obtain ⟨l, -, h⟩ := exists_of_bind_eq_ok h
    cases h
    cases call.response <;> simp [Effect.introduction?, adds?]

/-- The answer stands for the element, once the element is there. -/
theorem NameKind.element?_answer {kind : NameKind} {d d' : Diagram}
    {elements : List (NameKind × String)} (h : d.Numbered elements)
    (h' : d'.Numbered (elements ++ [(kind, kind.name d.names.issued)])) :
    (kind.answer d).element? d' = some (kind.name d.names.issued) := by
  cases kind with
  -- a handle is the position of the name that has been added last
  | participant =>
    have hnames : d'.participantNames =
        d.participantNames ++ [name .participant d.names.issued] := by
      rw [h'.participants, select_append, ← h.participants]
      rfl
    have hlength : d.participantNames.length = d.lifelines.length := List.length_map _
    rw [answer, Reply.element?, hnames, ← hlength, List.getElem?_concat_length]
  | frame | comment => rfl

namespace Diagram

variable {d : Diagram} {elements : List (NameKind × String)}

/-- An operation adds what it answers, and what is refused takes no number. -/
theorem Numbered.run (h : d.Numbered elements) (hd : d.Named) (op : Op) :
    (op.run d).2.Numbered (elements ++ (op.element? d).toList) := by
  rw [Op.element?, Op.run_eq hd.distinct]
  cases hs : op.script d with
  | error e =>
    cases op.adds? <;> simpa [Except.toOption] using h
  | ok answer =>
    obtain ⟨reply, ss⟩ := answer
    obtain ⟨rfl, hss⟩ := Op.introductions_script hs
    have hw := (h.writeAll (Op.admits_script hd.distinct hs)).params (op.newParams d.params)
    rw [hss] at hw
    cases hk : op.adds? with
    | none => simpa [hk] using hw
    | some kind =>
      rw [hk] at hw
      simpa [Except.toOption, NameKind.element?_answer h hw] using hw

/-- The elements that a run adds are numbered on from those that are there. -/
theorem Numbered.runAll {ops : List Op} (h : d.Numbered elements) (hd : d.Named) :
    (Op.runAll ops d).2.Numbered (elements ++ Op.elements ops d) := by
  induction ops generalizing d elements with
  | nil => simpa [Op.runAll, Op.elements] using h
  | cons op ops ih =>
    rw [Op.elements, ← List.append_assoc]
    exact ih (h.run hd op) (hd.run op)

/-- In a reachable diagram the introductions of the log are all the elements, in order. -/
theorem Reachable.numbered (h : d.Reachable) : d.Numbered (Statement.introductions d.log) := by
  obtain ⟨ops, rfl⟩ := h
  have hnumbered : (Op.runAll ops empty).2.Numbered _ := numbered_empty.runAll named_empty
  rwa [hnumbered.introductions]

end Diagram

namespace Op

/-- The elements that a run adds carry the numbers from zero in the order of their
    issue, whatever is refused on the way. Their names are apart, and each is introduced
    by one statement. -/
theorem names_of_run (ops : List Op) :
    let d := (runAll ops .empty).2
    let elements := Op.elements ops .empty
    d.Numbered elements ∧ (elements.map Prod.snd).Nodup ∧
      ∀ element ∈ elements, d.log.countP (·.effect.introduced? = some element.2) = 1 := by
  intro d elements
  have h : d.Numbered elements := Diagram.numbered_empty.runAll Diagram.named_empty
  exact ⟨h, h.nodup_names, fun _ => h.countP_introduced⟩

/-- Two operations of these are refused: no frame is open, and there is no second
    participant. -/
example : elements [addParticipant (.object "a"), endFrame ⟨0⟩ "F_0" 0, beginFrame ⟨0⟩ "loop" 1,
    delete ⟨1⟩, comment ⟨0⟩ { text := "b" }] .empty =
      [(.participant, "O_0"), (.frame, "F_1"), (.comment, "C_2")] := by
  rfl

end Op

end Lifelines
