import Lifelines.Proofs.PicText
import Lifelines.Proofs.Words

/-!
# The lines of the pic text

The parts of a document are written one after the other, each with a newline at its
end. Whether each part is then a line depends on whether some part has a newline of
its own. Of all texts that a document shows only labels can bring one in: the text of
a comment is written line by line, but a label is written as it is.

* `Statement.Plain.newline_mem_text_iff`: a newline in a statement is one of a label;
* `Diagram.Admissible.quoted_of_newline_mem`: it is not one of a comment's lines;
* `Document.LineByLine`: every part of a document is one line of its text;
* `Diagram.Reachable.lineByLine_iff`: this is so as long as no label has a newline.
-/

namespace Lifelines

/-! ### Pieces between separators -/

namespace Text

/-- No piece has the character at which it was split off. -/
theorem not_mem_of_mem_splitOn {x : Char} {cs l : List Char} (h : l ∈ cs.splitOn x) : x ∉ l := by
  induction cs generalizing l with
  | nil =>
    rw [List.splitOn_nil, List.mem_singleton] at h
    simp [h]
  | cons c cs ih =>
    rw [List.splitOn_cons_eq_if_modifyHead] at h
    split at h
    · rcases List.mem_cons.1 h with rfl | h
      · exact List.not_mem_nil
      · exact ih h
    · next hc =>
      -- the character goes before the first piece of the rest
      obtain ⟨p, ps, hps⟩ := List.exists_cons_of_ne_nil (List.splitOn_ne_nil x cs)
      rw [hps, List.modifyHead_cons] at h
      rcases List.mem_cons.1 h with rfl | h
      · have hp : x ∉ p := ih (hps ▸ List.mem_cons_self)
        have hxc : x ≠ c := fun heq => hc (beq_iff_eq.2 heq.symm)
        exact fun hmem => (List.mem_cons.1 hmem).elim hxc hp
      · exact ih (hps ▸ List.mem_cons_of_mem _ h)

/-- Parts are the pieces between the separators if no part has one of its own. -/
theorem splitOn_intercalate_eq_iff (x : Char) {ls : List (List Char)} (hls : ls ≠ []) :
    ([x].intercalate ls).splitOn x = ls ↔ ∀ l ∈ ls, x ∉ l :=
  ⟨fun h _ hl => not_mem_of_mem_splitOn (h.symm ▸ hl), fun h => List.splitOn_intercalate x h hls⟩

/-- Escaping neither adds nor drops a newline. -/
theorem newline_mem_escapeChars_iff {cs : List Char} : '\n' ∈ escapeChars cs ↔ '\n' ∈ cs := by
  induction cs with
  | nil => rfl
  | cons c cs ih => by_cases hc : c = '"' <;> simp [escapeChars, hc, ih]

theorem newline_mem_quote_iff {label : String} :
    '\n' ∈ (quote label).toList ↔ '\n' ∈ label.toList := by
  simp [quote, escape, newline_mem_escapeChars_iff]

/-- Quoted labels in a row have a newline if one of them has. -/
theorem newline_mem_quoted_iff {ls : List String} :
    '\n' ∈ (" ".intercalate (ls.map quote)).toList ↔ ∃ l ∈ ls, '\n' ∈ l.toList := by
  induction ls with
  | nil => simp
  | cons l ls ih =>
    by_cases hls : ls = []
    · simp [hls, newline_mem_quote_iff]
    · rw [List.map_cons, String.intercalate_cons_of_ne_nil (by simpa using hls)]
      simp only [String.toList_append, List.mem_append, ih, newline_mem_quote_iff,
        List.exists_mem_cons_iff]
      simp

end Text

/-! ### Statements -/

/-- A newline in a plain statement is one of a label. -/
theorem Statement.Plain.newline_mem_text_iff {s : Statement} (h : s.Plain) :
    '\n' ∈ s.text.toList ↔ ∃ l ∈ s.labels, '\n' ∈ l.toList := by
  have hopening : '\n' ∉ s.opening.toList := fun hc => absurd (h.opening_chars _ hc) (by decide)
  rw [h.text_eq, String.toList_append, String.toList_append, List.mem_append, List.mem_append,
    Text.newline_mem_quoted_iff]
  simp [hopening]

/-- A text is written as its lines. -/
theorem Arg.ofText_eq (lead : Option String) (text : String) :
    ofText lead text = lines lead (Text.linesOrBlank text) := by
  rw [ofText, Text.linesOrBlank]
  cases Text.lines text <;> rfl

/-- A label is not written like a text of lines. -/
@[simp]
theorem Arg.quoted_ne_ofText (label : String) (lead : Option String) (text : String) :
    quoted label ≠ ofText lead text := by
  rw [ofText_eq]
  exact Arg.noConfusion

/-- The lines of a text have no newlines in them. -/
theorem Arg.newline_not_mem_ofText {lead : Option String} {text l : String}
    (h : l ∈ (ofText lead text).labels) : '\n' ∉ l.toList := by
  rw [ofText_eq] at h
  exact Text.newline_not_mem_linesOrBlank h

/-- Lines are only written for a comment, from its text. -/
theorem Diagram.Admissible.eq_ofText {d : Diagram} {s : Statement} (h : d.Admissible s)
    {lead : Option String} {ls : List String} (ha : .lines lead ls ∈ s.args) :
    ∃ size text, Arg.lines lead ls = .ofText size text := by
  cases h with
  | comment movement size text _ => exact ⟨size, text, by simpa [Statement.comment] using ha⟩
  | declaration p =>
    cases p <;> simp [Participant.declaration, Statement.object, Statement.actor,
      Statement.placeholder] at ha
  | @mode mode => cases mode <;> exact absurd ha List.not_mem_nil
  | step => exact absurd ha List.not_mem_nil
  | beginFrame | endFrame | connectToComment | objectConstraint | lineConstraint | activate
  | deactivate | delete | message | returnMessage | createMessage | destroyMessage =>
    simp [Statement.beginFrame, Statement.endFrame, Statement.connectToComment,
      Statement.objectConstraint, Statement.lineConstraint, Statement.activate,
      Statement.deactivate, Statement.delete, Statement.message, Statement.returnMessage,
      Statement.createMessage, Statement.destroyMessage] at ha

/-- A label with a newline is not one of the lines of a comment. -/
theorem Diagram.Admissible.quoted_of_newline_mem {d : Diagram} {s : Statement} {label : String}
    (h : d.Admissible s) (hl : label ∈ s.labels) (hn : '\n' ∈ label.toList) :
    .quoted label ∈ s.args := by
  obtain ⟨a, ha, hla⟩ := List.mem_flatMap.1 hl
  cases a with
  | quoted l => rwa [List.mem_singleton.1 hla]
  | ident | raw => exact absurd hla List.not_mem_nil
  | lines lead ls =>
    obtain ⟨size, text, heq⟩ := h.eq_ofText ha
    exact absurd hn (Arg.newline_not_mem_ofText (heq ▸ hla))

/-! ### Documents -/

namespace Document

variable {doc : Document} {library : String}

/-- Every part of a document is one line of its pic text, which ends in a newline. -/
structure LineByLine (doc : Document) (library : String) : Prop where
  /-- Nothing stands after the last newline. -/
  lines_eq : (doc.toPic library).toList.splitOn '\n' =
    (doc.picLines library).map String.toList ++ [[]]
  /-- There are twelve lines that are not statements. -/
  length_eq : (doc.picLines library).length = doc.statements.length + 12
  /-- The statements come after the first eleven of them. -/
  statement_line : ∀ i s, doc.statements[i]? = some s →
    (doc.picLines library)[11 + i]? = some s.text
  /-- The picture is opened on the first line only. -/
  start_iff : ∀ k, (doc.picLines library)[k]? = some ".PS" ↔ k = 0
  /-- The picture is closed on the last line only. -/
  end_iff : ∀ k, (doc.picLines library)[k]? = some ".PE" ↔ k = doc.statements.length + 11

/-- What stands between the markers of the picture. -/
def body (doc : Document) (library : String) : List String :=
  ("copy \"" ++ library ++ "\";") ::
    (doc.params.assignments ++ doc.statements.map Statement.text)

theorem picLines_eq : doc.picLines library = ".PS" :: (doc.body library ++ [".PE"]) := by
  simp [picLines, body]

theorem length_body (doc : Document) (library : String) :
    (doc.body library).length = doc.statements.length + 10 := by
  simp [body, ParamSet.assignments, Param.all]

/-- Each line between the markers is ended by a semicolon. -/
theorem semicolon_mem_of_mem_body {l : String} (h : l ∈ doc.body library) : ';' ∈ l.toList := by
  rcases List.mem_cons.1 h with rfl | h
  · simp
  · rcases List.mem_append.1 h with h | h
    · obtain ⟨p, _, rfl⟩ := List.mem_map.1 h
      simp
    · obtain ⟨s, _, rfl⟩ := List.mem_map.1 h
      simp [Statement.text]

/-- A marker is at one end of the picture only: all that is between ends in a semicolon, and a
    marker has none. -/
theorem getElem?_picLines_eq_iff {marker : String} (hm : ';' ∉ marker.toList) (k : Nat) :
    (doc.picLines library)[k]? = some marker ↔
      k = 0 ∧ marker = ".PS" ∨ k = doc.statements.length + 11 ∧ marker = ".PE" := by
  have hlen := length_body doc library
  rw [picLines_eq]
  cases k with
  | zero => simp [eq_comm]
  | succ k =>
    rw [List.getElem?_cons_succ]
    by_cases hk : k < (doc.body library).length
    · -- a marker is not between the markers
      rw [List.getElem?_append_left hk]
      have hne : (doc.body library)[k]? ≠ some marker := fun h =>
        hm (semicolon_mem_of_mem_body (List.mem_of_getElem? h))
      have hk' : k ≠ doc.statements.length + 10 := by omega
      simp [hne, hk']
    · rw [List.getElem?_append_right (Nat.le_of_not_lt hk), List.getElem?_singleton]
      split
      · have hlast : k = doc.statements.length + 10 := by omega
        simp [hlast, eq_comm]
      · have hlast : k ≠ doc.statements.length + 10 := by omega
        simp [hlast]

/-- The statements come after eleven other lines, in order. -/
theorem getElem?_picLines_statement {i : Nat} {s : Statement} (h : doc.statements[i]? = some s) :
    (doc.picLines library)[11 + i]? = some s.text := by
  have hi := (List.getElem?_eq_some_iff.1 h).1
  have hlen := length_body doc library
  have hassignments : doc.params.assignments.length = 9 := by
    simp [ParamSet.assignments, Param.all]
  rw [picLines_eq, show 11 + i = 9 + i + 1 + 1 by omega, List.getElem?_cons_succ,
    List.getElem?_append_left (by omega), body, List.getElem?_cons_succ,
    List.getElem?_append_right (by omega), hassignments, Nat.add_sub_cancel_left,
    List.getElem?_map, h]
  rfl

/-- The text has a newline after each part. -/
theorem toList_toPic_eq_intercalate : (doc.toPic library).toList =
    ['\n'].intercalate ((doc.picLines library).map String.toList ++ [[]]) := by
  have hempty : "\n".intercalate (doc.picLines library ++ [""]) = doc.toPic library := by
    rw [String.intercalate_append_of_ne_nil (by simp [picLines]) (by simp)]
    simp [toPic]
  rw [← hempty]
  simp

/-- Every part is a line if no part has a newline of its own. -/
theorem lineByLine_iff_lines :
    doc.LineByLine library ↔ ∀ l ∈ doc.picLines library, '\n' ∉ l.toList := by
  have hne : (doc.picLines library).map String.toList ++ [[]] ≠ [] := by simp
  -- the text is its parts with newlines between them, and it ends in one
  have hsplit := Text.splitOn_intercalate_eq_iff '\n' hne
  rw [← toList_toPic_eq_intercalate] at hsplit
  constructor
  · intro h l hl
    exact hsplit.1 h.lines_eq _ (List.mem_append_left _ (List.mem_map_of_mem hl))
  · intro h
    refine ⟨hsplit.2 fun l hl => ?_, ?_, fun _ _ => getElem?_picLines_statement, fun k => ?_,
      fun k => ?_⟩
    · rcases List.mem_append.1 hl with hl | hl
      · obtain ⟨line, hline, rfl⟩ := List.mem_map.1 hl
        exact h line hline
      · simp [List.mem_singleton.1 hl]
    · rw [picLines_eq, List.length_cons, List.length_append, length_body, List.length_singleton]
    · rw [getElem?_picLines_eq_iff (by decide)]
      simp
    · rw [getElem?_picLines_eq_iff (by decide)]
      simp

/-- The parts that are not statements have no newline. -/
theorem lineByLine_iff_statements (hlib : '\n' ∉ library.toList) :
    doc.LineByLine library ↔ ∀ s ∈ doc.statements, '\n' ∉ s.text.toList := by
  rw [lineByLine_iff_lines]
  constructor
  · intro h s hs
    exact h _ (by simp [picLines_eq, body, List.mem_map_of_mem hs])
  · intro h l hl
    rw [picLines_eq, body] at hl
    simp only [List.cons_append, List.append_assoc, List.mem_cons, List.mem_append, List.mem_map,
      List.not_mem_nil, or_false] at hl
    rcases hl with rfl | rfl | hl | ⟨s, hs, rfl⟩ | rfl
    · decide
    · simp [hlib]
    · obtain ⟨p, _, rfl⟩ := List.mem_map.1 hl
      exact doc.params.newline_not_mem_assignment p
    · exact h s hs
    · decide

end Document

namespace Diagram

variable {d : Diagram} {doc : Document}

/-- A newline in a statement of a document is one of a label that was given. -/
theorem Reachable.newline_mem_text_iff (h : d.Reachable) (hplaced : ∀ s ∈ d.log, s.Unplaced)
    (hdoc : d.finish = .ok doc) :
    (∃ s ∈ doc.statements, '\n' ∈ s.text.toList) ↔
      ∃ s ∈ d.log, ∃ label, .quoted label ∈ s.args ∧ '\n' ∈ label.toList := by
  have hplain := h.plain_of_finish hplaced hdoc
  rw [finish] at hdoc
  split at hdoc <;> cases hdoc
  constructor
  · rintro ⟨s, hs, hn⟩
    obtain ⟨l, hl, hn⟩ := (hplain s hs).newline_mem_text_iff.1 hn
    rcases List.mem_append.1 hs with hs | hs
    · obtain ⟨d', hd'⟩ := h.admissible_of_mem_log s hs
      exact ⟨s, hs, l, hd'.quoted_of_newline_mem hl hn, hn⟩
    · -- a lifeline is completed without a label
      obtain ⟨n, _, rfl⟩ := List.mem_map.1 hs
      exact absurd hl List.not_mem_nil
  · rintro ⟨s, hs, label, hlabel, hn⟩
    have hs' := List.mem_append_left (d.liveNames.map Statement.complete) hs
    exact ⟨s, hs', (hplain s hs').newline_mem_text_iff.2
      ⟨label, List.mem_flatMap.2 ⟨_, hlabel, List.mem_singleton_self label⟩, hn⟩⟩

/-- The pic text of a diagram is written line by line just in case no label has a
    newline, whatever the lines of its comments are. -/
theorem Reachable.lineByLine_iff (h : d.Reachable) (hplaced : ∀ s ∈ d.log, s.Unplaced)
    (hdoc : d.finish = .ok doc) {library : String} (hlib : '\n' ∉ library.toList) :
    doc.LineByLine library ↔
      ∀ s ∈ d.log, ∀ label, .quoted label ∈ s.args → '\n' ∉ label.toList := by
  have hiff := not_congr (h.newline_mem_text_iff hplaced hdoc)
  push Not at hiff
  rw [Document.lineByLine_iff_statements hlib, hiff]

/-- The text of a comment has its own lines, and stands on one line all the same. -/
theorem lineByLine_with_awkwardLabel :
    ∃ doc, (Op.runAll Op.awkwardLabel .empty).2.finish = .ok doc ∧
      doc.LineByLine "sequence.pic" := by
  refine ⟨_, rfl, ?_⟩
  refine (Reachable.lineByLine_iff ⟨Op.awkwardLabel, rfl⟩ Op.unplaced_awkwardLabel rfl
    (by decide)).2 ?_
  rw [Op.log_awkwardLabel]
  refine List.forall_mem_cons.2 ⟨?_, List.forall_mem_singleton.2 ?_⟩
  · intro label hlabel
    obtain rfl : label = "a\"b\\" := by simpa [Statement.object] using hlabel
    decide
  · intro label hlabel
    simp [Statement.comment] at hlabel

/-- An object with a label of two lines. -/
def twoLineLabel : List Op :=
  [.addParticipant (.object "a\nb")]

/-- A label of two lines is not written on one. -/
theorem not_lineByLine_with_twoLineLabel :
    ∃ doc, (Op.runAll twoLineLabel .empty).2.finish = .ok doc ∧
      ¬doc.LineByLine "sequence.pic" := by
  refine ⟨_, rfl, fun h => ?_⟩
  have hall := (Document.lineByLine_iff_statements (by decide)).1 h
  exact hall (.object (NameKind.participant.name 0) "a\nb") List.mem_cons_self (by decide)

end Diagram

end Lifelines
