import Lifelines.Proofs.Introduction

/-!
# Frames and comments match up

Frames are closed, and comments connected, by names that callers hand in, in any
order and with refused operations in between. Nothing is matched wrongly: names
of one kind are never names of another, and no name is given twice. So all that
a log says of a frame is that it begins and, once it is closed, that it ends, and
all that it says of a comment comes after the comment itself.

* `Statement.about`: the statements that refer to an element;
* `Diagram.Matching`: what a log says about its frames and comments;
* `Matched`: the same for a finished document, in which every frame is closed;
* `Op.frames_and_comments_match`: a diagram can be finished once every frame that
  begins in its log also ends there, and then its frames and comments match up.
-/

namespace Lifelines

/-- The frame that a change closes. -/
def Effect.closed? : Effect → Option String
  | .closeFrame frame => some frame
  | _ => Option.none

namespace Statement

/-- The statements that refer to an element, in order. -/
def about (n : String) (ss : List Statement) : List Statement :=
  ss.filter (·.references n)

/-- The frames that statements end, in order. -/
def ended (ss : List Statement) : List String :=
  ss.filterMap (·.effect.closed?)

/-- What statements say about a frame: it begins and, unless it is open, it ends. -/
inductive TellFrame (n : String) : Bool → List Statement → Prop
  | begun (left label : String) : TellFrame n true [.beginFrame left n label]
  | ended (left label right : String) :
    TellFrame n false [.beginFrame left n label, .endFrame right n]

/-- What statements say about a comment: it is attached, and then lines are drawn to it. -/
inductive TellComment (n : String) : List Statement → Prop
  | attached (object movement text : String) (size : Option String) (objects : List String) :
    TellComment n
      (.comment object n movement size text :: objects.map (Statement.connectToComment · n))

end Statement

open Statement in
/-- Frames and comments match up, the elements of a diagram being given. -/
structure Matched (elements : List (NameKind × String)) (ss : List Statement) : Prop where
  introductions : introductions ss = elements
  frames : ∀ n, (.frame, n) ∈ elements → TellFrame n false (about n ss)
  comments : ∀ n, (.comment, n) ∈ elements → TellComment n (about n ss)
  ends : ∀ right n, .endFrame right n ∈ ss → (.frame, n) ∈ elements
  connections : ∀ object n, .connectToComment object n ∈ ss → (.comment, n) ∈ elements

/-! ### Statements about an element -/

namespace Statement

variable {s : Statement} {ss ts : List Statement} {n : String}

theorem about_append : about n (ss ++ ts) = about n ss ++ about n ts :=
  List.filter_append ..

/-- Statements that do not mention an element say nothing about it. -/
theorem about_eq_nil (h : ∀ s ∈ ss, n ∉ s.names) : about n ss = [] := by
  rw [about, List.filter_eq_nil_iff]
  intro s hs hn
  exact h s hs (references_iff.1 hn)

theorem about_cons_of_mem (h : n ∈ s.names) : about n (s :: ss) = s :: about n ss :=
  List.filter_cons_of_pos (references_iff.2 h)

theorem about_concat_of_mem (h : n ∈ s.names) : about n (ss ++ [s]) = about n ss ++ [s] := by
  rw [about_append, about_cons_of_mem h]
  rfl

/-- A last statement that does not mention an element adds nothing to what is said about it. -/
theorem about_concat_of_not_mem (h : n ∉ s.names) : about n (ss ++ [s]) = about n ss := by
  have hs : about n [s] = [] := about_eq_nil (by simpa using h)
  rw [about_append, hs, List.append_nil]

theorem mem_about_iff : s ∈ about n ss ↔ s ∈ ss ∧ n ∈ s.names := by
  rw [about, List.mem_filter, references_iff]

theorem ended_concat : ended (ss ++ [s]) = ended ss ++ s.effect.closed?.toList := by
  rw [ended, List.filterMap_append]
  cases h : s.effect.closed? <;> simp [ended, h]

/-- An open frame ends. -/
theorem TellFrame.concat (h : TellFrame n true ss) (right : String) :
    TellFrame n false (ss ++ [.endFrame right n]) := by
  cases h with
  | begun left label => exact .ended left label right

/-- What begins, and is not open, ends after that. -/
theorem TellFrame.exists_end {left label : String}
    (h : TellFrame n false (ss ++ .beginFrame left n label :: ts)) :
    ∃ right, .endFrame right n ∈ ts := by
  generalize htold : ss ++ .beginFrame left n label :: ts = told at h
  cases h with
  | ended left' label' right =>
    rcases ss with _ | ⟨first, ss⟩
    · obtain ⟨-, rfl⟩ := List.cons.inj htold
      exact ⟨right, List.mem_singleton_self _⟩
    · obtain ⟨-, hrest⟩ := List.cons.inj htold
      have hmem : .beginFrame left n label ∈ [Statement.endFrame right n] := by
        rw [← hrest]
        exact List.mem_append_right _ List.mem_cons_self
      cases congrArg effect (List.mem_singleton.1 hmem)

/-- A line more is drawn to a comment. -/
theorem TellComment.concat (h : TellComment n ss) (object : String) :
    TellComment n (ss ++ [.connectToComment object n]) := by
  cases h with
  | attached first movement text size objects =>
    have hmore := TellComment.attached (n := n) first movement text size (objects ++ [object])
    rwa [List.map_append] at hmore

end Statement

namespace Effect

variable {e : Effect} {n : String}

theorem introduction?_eq_frame (h : e.introduction? = some (.frame, n)) : e = .openFrame n := by
  cases e <;> simp_all [introduction?]

theorem introduction?_eq_comment (h : e.introduction? = some (.comment, n)) : e = .note n := by
  cases e <;> simp_all [introduction?]

end Effect

namespace Diagram

variable {d : Diagram} {s : Statement} {n : String} {elements : List (NameKind × String)}

/-- The name of an element has been issued. -/
theorem Numbered.issued (h : d.Numbered elements) {kind : NameKind}
    (hn : (kind, n) ∈ elements) : d.Issued kind n := by
  obtain ⟨i, hi, he⟩ := List.getElem_of_mem hn
  refine ⟨i, h.counted ▸ hi, h.numbered i kind n ?_⟩
  rw [List.getElem?_eq_getElem hi, he]

/-- No name is issued for two kinds. -/
theorem Issued.kind_eq {kind kind' : NameKind} (h : d.Issued kind n) (h' : d.Issued kind' n) :
    kind = kind' := by
  obtain ⟨k, -, rfl⟩ := h
  obtain ⟨k', -, he⟩ := h'
  exact (NameKind.name_inj.1 he).1

/-- A statement that refers to a frame ends it, and one that refers to a comment draws
    a line to it, once they are there. -/
theorem Admissible.eq_of_issued (h : d.Admissible s) (hd : d.Named) {kind : NameKind}
    (hk : kind ≠ .participant) (hi : d.Issued kind n) (hn : n ∈ s.names) :
    (n ∈ d.openFrames ∧ ∃ right, s = .endFrame right n) ∨
      (n ∈ d.comments ∧ ∃ object, s = .connectToComment object n) := by
  have halive : ∀ l, d.Alive l → l.name ≠ n := by
    rintro l hl rfl
    exact hk (hi.kind_eq (hd.participants _ (List.mem_map_of_mem hl.mem)))
  have hnext : ∀ kind' : NameKind, n ≠ kind'.name d.names.issued := by
    rintro kind' rfl
    exact not_issued_next hi
  -- what is neither alive nor new can only be an open frame or a comment
  cases h with
  | mode | step | objectConstraint => simp at hn
  | declaration p =>
    obtain rfl : n = _ := by simpa using hn
    exact absurd rfl (hnext _)
  | beginFrame label hl =>
    obtain rfl | rfl : n = _ ∨ n = _ := by simpa using hn
    · exact absurd rfl (halive _ hl)
    · exact absurd rfl (hnext _)
  | comment _ size text hl =>
    obtain rfl | rfl : n = _ ∨ n = _ := by simpa using hn
    · exact absurd rfl (halive _ hl)
    · exact absurd rfl (hnext _)
  | endFrame hl hf =>
    obtain rfl | rfl : n = _ ∨ n = _ := by simpa using hn
    · exact absurd rfl (halive _ hl)
    · exact .inl ⟨hf, _, rfl⟩
  | connectToComment hl hc =>
    obtain rfl | rfl : n = _ ∨ n = _ := by simpa using hn
    · exact absurd rfl (halive _ hl)
    · exact .inr ⟨hc, _, rfl⟩
  | lineConstraint _ _ hl | activate hl | delete hl | deactivate hl =>
    obtain rfl : n = _ := by simpa using hn
    exact absurd rfl (halive _ hl)
  | message _ hs ht | returnMessage _ hs ht | createMessage _ hs ht | destroyMessage hs ht =>
    obtain rfl | rfl : n = _ ∨ n = _ := by simpa using hn
    · exact absurd rfl (halive _ hs)
    · exact absurd rfl (halive _ ht)

/-- What opens a frame is the statement that begins it. -/
theorem Admissible.exists_beginFrame (h : d.Admissible s) (he : s.effect = .openFrame n) :
    ∃ left label, s = .beginFrame left n label := by
  cases h <;> simp at he
  exact ⟨_, _, by rw [he]⟩

/-- What closes a frame is the statement that ends it. -/
theorem Admissible.exists_endFrame (h : d.Admissible s) (he : s.effect = .closeFrame n) :
    ∃ right, s = .endFrame right n := by
  cases h <;> simp at he
  exact ⟨_, by rw [he]⟩

/-- What adds a comment is the statement that shows it. -/
theorem Admissible.exists_comment (h : d.Admissible s) (he : s.effect = .note n) :
    ∃ object movement size text, s = .comment object n movement size text := by
  cases h <;> simp at he
  exact ⟨_, _, _, _, by rw [he]⟩

/-- The name of a new element is new for all kinds. -/
theorem Admissible.not_issued (h : d.Admissible s) {kind kind' : NameKind}
    (he : s.effect.introduction? = some (kind', n)) : ¬d.Issued kind n := by
  rw [h.introduction_eq he]
  exact not_issued_next

/-- Nothing refers to an element before it is introduced. -/
theorem Admissible.about_introduction (h : d.Admissible s) (hd : d.Named) {kind : NameKind}
    (he : s.effect.introduction? = some (kind, n)) : Statement.about n d.log = [] := by
  rw [h.introduction_eq he]
  exact Statement.about_eq_nil fun t ht => hd.fresh ht kind

/-- A line is drawn only to a comment. -/
theorem Admissible.mem_comments {object : String}
    (h : d.Admissible (.connectToComment object n)) : n ∈ d.comments := by
  generalize hs : Statement.connectToComment object n = s at h
  have hname : s.name = "connect_to_comment" := by rw [← hs]; rfl
  -- the macro tells the statement from all others
  cases h with
  | connectToComment _ hc =>
    obtain ⟨-, rfl⟩ : _ ∧ n = _ := by simpa [Statement.connectToComment] using hs
    exact hc
  | declaration p =>
    cases p <;> simp [Participant.declaration, Statement.object, Statement.actor,
      Statement.placeholder] at hname
  | @mode mode _ => cases mode <;> simp [SyncMode.statement, SyncMode.name] at hname
  | lineConstraint _ below => cases below <;> simp [Statement.lineConstraint] at hname
  | _ =>
    simp [Statement.step, Statement.beginFrame, Statement.endFrame, Statement.comment,
      Statement.objectConstraint, Statement.activate, Statement.deactivate, Statement.message,
      Statement.returnMessage, Statement.createMessage, Statement.destroyMessage,
      Statement.delete] at hname

/-- A statement that does not refer to a frame leaves it open or closed. -/
theorem contains_openFrames_write (h : d.Admissible s) (hi : d.Issued .frame n)
    (hn : n ∉ s.names) : (d.write s).openFrames.contains n = d.openFrames.contains n := by
  rw [Bool.eq_iff_iff, List.contains_iff_mem, List.contains_iff_mem]
  cases he : s.effect with
  | openFrame frame =>
    have hne : n ≠ frame := by
      rintro rfl
      exact h.not_issued (by rw [he]; rfl) hi
    simp [Diagram.write, apply, he, hne]
  | closeFrame frame =>
    have hne : n ≠ frame := by
      rintro rfl
      obtain ⟨right, rfl⟩ := h.exists_endFrame he
      exact hn (by simp)
    simp [Diagram.write, apply, he, List.mem_erase_of_ne hne]
  | _ => simp [Diagram.write, apply, change, he]

/-! ### While the log is written -/

open Statement in
/-- What the log says about the frames and the comments among the elements. -/
structure Matching (d : Diagram) (elements : List (NameKind × String)) : Prop where
  openFrames : d.openFrames = (NameKind.frame.select elements).filter (· ∉ ended d.log)
  frames : ∀ n, (.frame, n) ∈ elements → TellFrame n (d.openFrames.contains n) (about n d.log)
  comments : ∀ n, (.comment, n) ∈ elements → TellComment n (about n d.log)
  ends : ∀ n ∈ ended d.log, (.frame, n) ∈ elements
  connections : ∀ object n, .connectToComment object n ∈ d.log → (.comment, n) ∈ elements

theorem Numbered.nodup_select (h : d.Numbered elements) (kind : NameKind) :
    (kind.select elements).Nodup :=
  h.nodup_names.sublist (List.filter_sublist.map Prod.snd)

section

variable (h : d.Matching elements) (hnum : d.Numbered elements) (hd : d.Named)
  (hs : d.Admissible s)

include h hnum

theorem Matching.nodup_openFrames : d.openFrames.Nodup := by
  rw [h.openFrames]
  exact (hnum.nodup_select .frame).filter _

include hs

/-- The open frames go on to be those that have begun and not ended, in opening order. -/
theorem Matching.openFrames_write : (d.write s).openFrames =
    (NameKind.frame.select (elements ++ s.effect.introduction?.toList)).filter
      (· ∉ Statement.ended (d.write s).log) := by
  have hopen := h.openFrames
  rw [log_write, Statement.ended_concat, NameKind.select_append]
  cases he : s.effect with
  | openFrame frame =>
    -- a frame that begins has not ended before
    have hnew : frame ∉ Statement.ended d.log := fun hmem =>
      hs.not_issued (by rw [he]; rfl) (hnum.issued (h.ends frame hmem))
    have hwrite : (d.write s).openFrames = d.openFrames ++ [frame] := by
      simp [Diagram.write, apply, he]
    rw [hwrite, hopen]
    simp [Effect.closed?, Effect.introduction?, NameKind.select, hnew]
  | closeFrame frame =>
    have hwrite : (d.write s).openFrames = d.openFrames.erase frame := by
      simp [Diagram.write, apply, he]
    rw [hwrite, (h.nodup_openFrames hnum).erase_eq_filter, hopen, List.filter_filter]
    simp [Effect.closed?, Effect.introduction?, NameKind.select, bne, beq_eq_decide,
      and_comm]
  | _ =>
    simpa [Diagram.write, apply, change, he, Effect.introduction?, Effect.closed?,
      NameKind.select] using hopen

include hd

/-- A statement that may be written next continues what is told about each frame. -/
theorem Matching.frames_write (hn : (.frame, n) ∈ elements ++ s.effect.introduction?.toList) :
    Statement.TellFrame n ((d.write s).openFrames.contains n)
      (Statement.about n (d.write s).log) := by
  rw [log_write]
  rcases List.mem_append.1 hn with hold | hnew
  · have hi := hnum.issued hold
    have htell := h.frames n hold
    by_cases hmem : n ∈ s.names
    · rcases hs.eq_of_issued hd (by simp) hi hmem with ⟨hf, right, rfl⟩ | ⟨hc, -⟩
      · -- the frame is open, and now it ends
        have hclosed : (d.write (.endFrame right n)).openFrames.contains n = false := by
          rw [Bool.eq_false_iff, ne_eq, List.contains_iff_mem]
          exact (h.nodup_openFrames hnum).not_mem_erase
        rw [List.contains_iff_mem.2 hf] at htell
        rw [hclosed, Statement.about_concat_of_mem hmem]
        exact htell.concat right
      · exact absurd (hi.kind_eq (hd.comments n hc)) (by simp)
    · rwa [Statement.about_concat_of_not_mem hmem, contains_openFrames_write hs hi hmem]
  · -- the frame begins, and nothing refers to it yet
    have he : s.effect.introduction? = some (.frame, n) := by simpa [eq_comm] using hnew
    obtain ⟨left, label, rfl⟩ := hs.exists_beginFrame (Effect.introduction?_eq_frame he)
    have hopen : n ∈ (d.write (.beginFrame left n label)).openFrames :=
      List.mem_append_right _ (List.mem_singleton_self n)
    rw [Statement.about_concat_of_mem (by simp), hs.about_introduction hd he,
      List.contains_iff_mem.2 hopen]
    exact .begun left label

/-- A statement that may be written next continues what is told about each comment. -/
theorem Matching.comments_write
    (hn : (.comment, n) ∈ elements ++ s.effect.introduction?.toList) :
    Statement.TellComment n (Statement.about n (d.write s).log) := by
  rw [log_write]
  rcases List.mem_append.1 hn with hold | hnew
  · have hi := hnum.issued hold
    have htell := h.comments n hold
    by_cases hmem : n ∈ s.names
    · rcases hs.eq_of_issued hd (by simp) hi hmem with ⟨hf, -⟩ | ⟨-, object, rfl⟩
      · exact absurd (hi.kind_eq (hd.frames n hf)) (by simp)
      · rw [Statement.about_concat_of_mem hmem]
        exact htell.concat object
    · rwa [Statement.about_concat_of_not_mem hmem]
  · -- the comment is attached, and nothing refers to it yet
    have he : s.effect.introduction? = some (.comment, n) := by simpa [eq_comm] using hnew
    obtain ⟨object, movement, size, text, rfl⟩ :=
      hs.exists_comment (Effect.introduction?_eq_comment he)
    rw [Statement.about_concat_of_mem (by simp), hs.about_introduction hd he]
    exact .attached object movement text size []

/-- Frames and comments go on to match up when an admissible statement is written. -/
theorem Matching.write : (d.write s).Matching (elements ++ s.effect.introduction?.toList) where
  openFrames := h.openFrames_write hnum hs
  frames n hn := h.frames_write hnum hd hs hn
  comments n hn := h.comments_write hnum hd hs hn
  ends n hn := by
    rw [log_write, Statement.ended_concat, List.mem_append] at hn
    rcases hn with hn | hn
    · exact List.mem_append_left _ (h.ends n hn)
    · -- only a frame that is open can be closed, and open frames are elements
      have hf := hs.accepts
      cases he : s.effect with
      | closeFrame frame =>
        rw [he] at hn hf
        obtain rfl : n = frame := by simpa [Effect.closed?] using hn
        exact List.mem_append_left _ (hnum.openFrames n hf)
      | _ => simp [he, Effect.closed?] at hn
  connections object n hn := by
    rw [log_write, List.mem_append, List.mem_singleton] at hn
    rcases hn with hn | rfl
    · exact List.mem_append_left _ (h.connections object n hn)
    · have hc := hs.mem_comments
      rw [hnum.comments, NameKind.mem_select_iff] at hc
      exact List.mem_append_left _ hc

end

/-- In a reachable diagram frames and comments match up so far. -/
theorem Reachable.matching (h : d.Reachable) : d.Matching (Statement.introductions d.log) := by
  -- a step needs the numbering of what came before, so the two go together
  suffices hboth : d.Numbered (Statement.introductions d.log) ∧
      d.Matching (Statement.introductions d.log) from hboth.2
  refine h.induct (motive := fun d => d.Numbered (Statement.introductions d.log) ∧
    d.Matching (Statement.introductions d.log)) ⟨numbered_empty, ?_⟩ ?_ ?_
  · constructor <;> simp [empty, Statement.ended, NameKind.select]
  · rintro d s hd hs ⟨hnum, hmatch⟩
    have hlog : Statement.introductions (d.write s).log =
        Statement.introductions d.log ++ s.effect.introduction?.toList := by
      rw [log_write, Statement.introductions_append]
      simp
    rw [hlog]
    exact ⟨hnum.write hs, hmatch.write hnum hd hs⟩
  · rintro d params ⟨hnum, hmatch⟩
    exact ⟨hnum.params params, hmatch.openFrames, hmatch.frames, hmatch.comments, hmatch.ends,
      hmatch.connections⟩

/-! ### When the diagram is finished -/

theorem exists_finish_iff : (∃ doc, d.finish = .ok doc) ↔ d.openFrames = [] := by
  unfold finish
  cases d.openFrames <;> simp

section

variable (h : d.Matching elements) (hnum : d.Numbered elements)

include h hnum

/-- No frame is open once all that begin also end later. -/
theorem Matching.openFrames_eq_nil_iff : d.openFrames = [] ↔ ∀ pre post left n label,
    d.log = pre ++ .beginFrame left n label :: post → ∃ right, .endFrame right n ∈ post := by
  constructor
  · intro hnone pre post left n label hlog
    have hn : (.frame, n) ∈ elements := by
      rw [← hnum.introductions, hlog]
      simp [Effect.introduction?]
    have htell := h.frames n hn
    rw [hnone, List.contains_nil, hlog, Statement.about_append,
      Statement.about_cons_of_mem (by simp)] at htell
    obtain ⟨right, hend⟩ := htell.exists_end
    exact ⟨right, (Statement.mem_about_iff.1 hend).1⟩
  · intro hends
    rw [List.eq_nil_iff_forall_not_mem]
    intro n hn
    have htell := h.frames n (hnum.openFrames n hn)
    rw [List.contains_iff_mem.2 hn] at htell
    generalize htold : Statement.about n d.log = told at htell
    cases htell with
    | begun left label =>
      have hmem : .beginFrame left n label ∈ Statement.about n d.log := by
        rw [htold]
        exact List.mem_singleton_self _
      obtain ⟨pre, post, hlog⟩ := List.append_of_mem (Statement.mem_about_iff.1 hmem).1
      obtain ⟨right, hend⟩ := hends pre post left n label hlog
      -- an end would be told of the frame as well
      have hlast : .endFrame right n ∈ Statement.about n d.log :=
        Statement.mem_about_iff.2 ⟨by simp [hlog, hend], by simp⟩
      rw [htold] at hlast
      cases congrArg Statement.effect (List.mem_singleton.1 hlast)

/-- Completing the participants that are left says nothing about frames and comments. -/
theorem Matching.finish (hd : d.Named) (hnone : d.openFrames = []) :
    Matched elements (d.log ++ d.liveNames.map Statement.complete) := by
  -- completing a participant mentions nothing else
  have habout : ∀ kind n, kind ≠ NameKind.participant → (kind, n) ∈ elements →
      Statement.about n (d.log ++ d.liveNames.map Statement.complete) =
        Statement.about n d.log := by
    intro kind n hk hn
    rw [Statement.about_append, List.append_right_eq_self]
    refine Statement.about_eq_nil fun s hs hmem => ?_
    obtain ⟨a, ha, rfl⟩ := List.mem_map.1 hs
    obtain rfl : n = a := by simpa using hmem
    obtain ⟨l, hl, rfl⟩ := List.mem_map.1 ha
    have hi := hd.participants _ (List.mem_map_of_mem (List.mem_of_mem_filter hl))
    exact hk ((hnum.issued hn).kind_eq hi)
  have hlog : ∀ s ∈ d.log ++ d.liveNames.map Statement.complete,
      (∀ n, s.effect ≠ .leave n) → s ∈ d.log := by
    intro s hs hother
    refine (List.mem_append.1 hs).resolve_right fun hs => ?_
    obtain ⟨a, -, rfl⟩ := List.mem_map.1 hs
    exact hother a (Statement.effect_complete a)
  constructor
  · rw [Statement.introductions_append, hnum.introductions, List.append_right_eq_self,
      Statement.introductions, List.filterMap_map]
    exact List.filterMap_eq_nil_iff.2 fun a _ => rfl
  · intro n hn
    have htell := h.frames n hn
    rwa [hnone, List.contains_nil, ← habout .frame n (by simp) hn] at htell
  · intro n hn
    rw [habout .comment n (by simp) hn]
    exact h.comments n hn
  · intro right n hn
    refine h.ends n (List.mem_filterMap.2 ⟨_, hlog _ hn ?_, rfl⟩)
    simp
  · intro object n hn
    refine h.connections object n (hlog _ hn ?_)
    simp

end

end Diagram

/-! ### Frames close in any order -/

namespace Op

variable {d : Diagram}

/-- An open frame is closed on any participant that is alive. -/
theorem run_endFrame (hd : d.Named) {p : Handle} (hp : d.isLive p = true) {n : String}
    (hn : n ∈ d.openFrames) (steps : Nat) : ∃ d', (endFrame p n steps).run d = (.ok .done, d') ∧
      d'.openFrames = d.openFrames.erase n ∧ d'.lifelines = d.lifelines := by
  obtain ⟨l, hl⟩ := Diagram.isLive_iff.1 hp
  have hscript : (endFrame p n steps).script d =
      .ok (.done, List.replicate steps .step ++ [.endFrame l.name n]) := by
    rw [script, hl]
    exact if_pos (List.contains_iff_mem.2 hn)
  refine ⟨_, run_of_script hd.distinct rfl hscript, ?_⟩
  rw [Diagram.writeAll_append, Diagram.writeAll_replicate_step]
  exact ⟨rfl, rfl⟩

/-- All open frames are closed, in whatever order. -/
theorem runAll_endFrame {closings : List (Handle × String × Nat)} (hd : d.Named)
    (hlive : ∀ c ∈ closings, d.isLive c.1 = true)
    (hperm : (closings.map fun c => c.2.1).Perm d.openFrames) :
    ∃ d', runAll (closings.map fun (p, n, steps) => endFrame p n steps) d =
      (closings.map fun _ => .ok .done, d') ∧ d'.openFrames = [] := by
  induction closings generalizing d with
  | nil => exact ⟨d, rfl, hperm.nil_eq.symm⟩
  | cons c closings ih =>
    obtain ⟨hn, hrest⟩ := List.cons_perm_iff_perm_erase.1 hperm
    obtain ⟨d₁, hrun, hopen, hlifelines⟩ := run_endFrame hd (hlive c List.mem_cons_self) hn c.2.2
    -- closing a frame ends no participant
    have hlive₁ : ∀ c' ∈ closings, d₁.isLive c'.1 = true := by
      intro c' hc'
      rw [Diagram.isLive, hlifelines]
      exact hlive c' (List.mem_cons_of_mem _ hc')
    obtain ⟨d', hruns, hnone⟩ := ih (hd.of_run hrun) hlive₁ (hopen ▸ hrest)
    refine ⟨d', ?_, hnone⟩
    rw [List.map_cons, runAll, hrun]
    dsimp only
    rw [hruns]
    rfl

/-- A diagram can be finished once every frame that begins in its log also ends later,
    and then its frames and its comments match up. At any time the open frames are those
    that have begun and not ended, and they close in any order. -/
theorem frames_and_comments_match (ops : List Op) :
    let d := (runAll ops .empty).2
    let elements := elements ops .empty
    ((∃ doc, d.finish = .ok doc) ↔ ∀ pre post left n label,
        d.log = pre ++ .beginFrame left n label :: post → ∃ right, .endFrame right n ∈ post) ∧
      (∀ doc, d.finish = .ok doc → Matched elements doc.statements) ∧
      d.openFrames = (NameKind.frame.select elements).filter (· ∉ Statement.ended d.log) ∧
      ∀ closings : List (Handle × String × Nat), (∀ c ∈ closings, d.isLive c.1 = true) →
        (closings.map fun c => c.2.1).Perm d.openFrames →
        ∃ d', runAll (closings.map fun (p, n, steps) => endFrame p n steps) d =
          (closings.map fun _ => .ok .done, d') ∧ ∃ doc, d'.finish = .ok doc := by
  intro d elements
  have hnum : d.Numbered elements := Diagram.numbered_empty.runAll Diagram.named_empty
  have hreach : d.Reachable := ⟨ops, rfl⟩
  have hmatch : d.Matching elements := hnum.introductions ▸ hreach.matching
  refine ⟨?_, ?_, hmatch.openFrames, ?_⟩
  · rw [Diagram.exists_finish_iff, hmatch.openFrames_eq_nil_iff hnum]
  · intro doc hdoc
    have hnone := Diagram.exists_finish_iff.1 ⟨doc, hdoc⟩
    rw [Diagram.finish, hnone] at hdoc
    cases hdoc
    exact hmatch.finish hnum hreach.named hnone
  · intro closings hlive hperm
    obtain ⟨d', hrun, hnone⟩ := runAll_endFrame hreach.named hlive hperm
    exact ⟨d', hrun, Diagram.exists_finish_iff.2 hnone⟩

/-- Two frames that are open, and a comment. -/
def twoFrames : List Op :=
  [addParticipant (.object "a"), beginFrame ⟨0⟩ "loop" 1, beginFrame ⟨0⟩ "alt" 0,
    comment ⟨0⟩ { text := "b" }, connectToComment ⟨0⟩ (NameKind.comment.name 3)]

/-- The frame that began first closes first. -/
def crosswise : List (Handle × String × Nat) :=
  [(⟨0⟩, NameKind.frame.name 1, 0), (⟨0⟩, NameKind.frame.name 2, 1)]

/-- Two frames are closed in the order in which they were opened, which does not nest them. -/
theorem twoFrames_match_crosswise :
    let closed := twoFrames ++ crosswise.map fun (p, n, steps) => endFrame p n steps
    (∃ d', runAll (crosswise.map fun (p, n, steps) => endFrame p n steps)
        (runAll twoFrames .empty).2 = ([.ok .done, .ok .done], d') ∧ ∃ doc, d'.finish = .ok doc) ∧
      ∃ doc, (runAll closed .empty).2.finish = .ok doc ∧
        Matched [(.participant, NameKind.participant.name 0), (.frame, NameKind.frame.name 1),
          (.frame, NameKind.frame.name 2), (.comment, NameKind.comment.name 3)] doc.statements := by
  intro closed
  obtain ⟨-, -, -, anyOrder⟩ := frames_and_comments_match twoFrames
  obtain ⟨-, finished, -, -⟩ := frames_and_comments_match closed
  exact ⟨anyOrder crosswise (by decide) (.refl _), _, rfl, finished _ rfl⟩

end Op

end Lifelines
