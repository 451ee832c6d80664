import Lifelines.Proofs.Legible
import Lifelines.Proofs.Reachable

/-!
# The pic text loses nothing

A document can be had back from its pic text: the assignments are one line
each, and the statements after them are read from the end. This needs that no
comment has been given pic of its own, a movement or a size, which might look
like anything.

* `Decimal.newline_not_mem_text`: a number is written on one line;
* `Diagram.plain_of_mem_log`: the statements of a reachable diagram are plain,
  as long as its comments are;
* `Diagram.statements_eq_of_toPic_eq`: documents with the same text have the same
  statements and the same values of the parameters.
-/

namespace Lifelines

/-! ### Numbers -/

namespace Decimal

theorem newline_not_mem_toString (n : Nat) : '\n' ∉ (toString n).toList :=
  fun h => absurd (Text.isDigit_of_mem_toString h) (by decide)

/-- Setting a decimal point brings no newline with it. -/
theorem newline_not_mem_withPoint {digits : List Char} (h : '\n' ∉ digits) (n : Int) :
    '\n' ∉ Layout.withPoint "" digits n := by
  unfold Layout.withPoint
  split
  · simp [h]
  · dsimp only
    split
    · simp [h]
    · simp only [List.mem_append, List.mem_cons, not_or]
      exact ⟨fun hd => h (List.mem_of_mem_take hd), by decide,
        fun hd => h (List.mem_of_mem_drop hd)⟩

/-- A number is written without a newline. -/
theorem newline_not_mem_text (x : Float) : '\n' ∉ (plain.text x).toList := by
  have hsign : '\n' ∉ (if isNegative x then "-" else "").toList := by
    split <;> decide
  unfold Layout.text
  split
  · decide
  · dsimp only
    split
    · simp [hsign]
    · split
      · simp [hsign, plain]
      · simp only [String.toList_append, String.toList_ofList, List.mem_append, not_or]
        exact ⟨hsign, newline_not_mem_withPoint (newline_not_mem_toString _) _⟩

end Decimal

/-- The value of a parameter is written without a newline. -/
theorem ParamValue.newline_not_mem_text (v : ParamValue) : '\n' ∉ v.text.toList := by
  cases v with
  | number x => exact Decimal.newline_not_mem_text x
  | flag b => cases b <;> decide

/-! ### Statements -/

namespace Statement

/-- If the statement is a comment, it has been given no movement and no size. -/
def Unplaced (s : Statement) : Prop :=
  ∀ object name movement size text, s = comment object name movement size text →
    movement = "" ∧ size = none

/-- A comment without movement and size is a plain statement. -/
theorem plain_comment {object name : String} (text : String) (ho : Text.IsWord object)
    (hn : Text.IsWord name) : (comment object name "" none text).Plain := by
  have hnames : ∀ n ∈ [object, name], Text.IsWord n := by simp [ho, hn]
  have hname : Text.IsWord "comment" := Text.isWord_of_all rfl
  rw [comment, Arg.ofText]
  split
  · exact .lined [object, name] hname hnames (by simp)
  · next hls => exact .lined [object, name] hname hnames (by simpa using hls)

end Statement

/-- An admissible statement about words is plain. -/
theorem Diagram.Admissible.plain {d : Diagram} {s : Statement} (h : d.Admissible s)
    (hnames : ∀ n ∈ s.names, Text.IsWord n) (hs : s.Unplaced) : s.Plain := by
  cases h with
  | declaration p =>
    cases p with
    | object label => exact .labelled [_] label (Text.isWord_of_all rfl) hnames
    | actor label => exact .labelled [_] label (Text.isWord_of_all rfl) hnames
    | placeholder => exact .bare [_] (Text.isWord_of_all rfl) hnames
  | @mode mode =>
    cases mode <;> exact .bare [] (Text.isWord_of_all rfl) hnames
  | step => exact .bare [] (Text.isWord_of_all rfl) hnames
  | beginFrame label _ =>
    exact .labelled [_, _] label (Text.isWord_of_all rfl) hnames
  | endFrame | connectToComment | destroyMessage =>
    exact .bare [_, _] (Text.isWord_of_all rfl) hnames
  -- the movement and the size are free text, so a comment has to have neither
  | comment movement size text _ =>
    obtain ⟨rfl, rfl⟩ := hs _ _ _ _ _ rfl
    rw [Statement.names_comment] at hnames
    exact Statement.plain_comment text (hnames _ (by simp)) (hnames _ (by simp))
  | objectConstraint text =>
    exact .labelled [] text (Text.isWord_of_all rfl) hnames
  | lineConstraint text below _ =>
    cases below <;> exact .labelled [_] text (Text.isWord_of_all rfl) hnames
  | activate | deactivate | delete =>
    exact .bare [_] (Text.isWord_of_all rfl) hnames
  | message label | returnMessage label | createMessage label =>
    exact .labelled [_, _] label (Text.isWord_of_all rfl) hnames

namespace Diagram

variable {d : Diagram} {s : Statement} {doc : Document}

/-- What stands in the log was admissible when it was written. -/
theorem Reachable.admissible_of_mem_log (h : d.Reachable) :
    ∀ s ∈ d.log, ∃ d' : Diagram, d'.Admissible s := by
  refine h.induct (motive := fun d => ∀ s ∈ d.log, ∃ d' : Diagram, d'.Admissible s) ?_ ?_ ?_
  · exact fun s hs => absurd hs List.not_mem_nil
  · intro d t _ ht ih s hs
    rw [log_write, List.mem_append, List.mem_singleton] at hs
    rcases hs with hs | rfl
    · exact ih s hs
    · exact ⟨d, ht⟩
  · exact fun _ _ ih => ih

/-- In the log of a reachable diagram only a comment that is moved or sized is not plain. -/
theorem Reachable.plain_of_mem_log (h : d.Reachable) (hs : s ∈ d.log) (hu : s.Unplaced) :
    s.Plain := by
  obtain ⟨d', hd'⟩ := h.admissible_of_mem_log s hs
  refine hd'.plain (fun n hn => ?_) hu
  obtain ⟨kind, k, _, rfl⟩ := h.named.log s hs n hn
  exact kind.isWord_name k

/-- All statements of a finished document are plain if those of the log are. -/
theorem Reachable.plain_of_finish (h : d.Reachable) (hu : ∀ s ∈ d.log, s.Unplaced)
    (hdoc : d.finish = .ok doc) : ∀ s ∈ doc.statements, s.Plain := by
  rw [finish] at hdoc
  split at hdoc <;> cases hdoc
  intro s hs
  rcases List.mem_append.1 hs with hs | hs
  · exact h.plain_of_mem_log hs (hu s hs)
  · obtain ⟨n, hn, rfl⟩ := List.mem_map.1 hs
    obtain ⟨l, hl, rfl⟩ := List.mem_map.1 hn
    obtain ⟨k, _, hk⟩ :=
      h.named.participants _ (List.mem_map_of_mem (List.mem_of_mem_filter hl))
    refine .bare [l.name] (Text.isWord_of_all rfl) fun n hn => ?_
    rw [List.mem_singleton.1 hn, hk]
    exact NameKind.isWord_name _ k

end Diagram

/-! ### Documents -/

/-- Lines, each after a newline. -/
def Text.onLines (ls : List String) : List Char :=
  ls.flatMap fun l => '\n' :: l.toList

/-- Of lines put together all but the first come after a newline. -/
theorem Text.toList_intercalate_newline (l : String) (ls : List String) :
    ("\n".intercalate (l :: ls)).toList = l.toList ++ onLines ls := by
  induction ls generalizing l with
  | nil => simp [onLines]
  | cons l' ls ih =>
    rw [String.intercalate_cons_cons, String.toList_append, ih]
    simp [onLines]

theorem Text.onLines_cons (l : String) (ls : List String) :
    onLines (l :: ls) = '\n' :: (l.toList ++ onLines ls) := rfl

/-- Lines start with a newline if what follows them does. -/
theorem Text.head?_onLines_append {ls : List String} {r : List Char} (h : r.head? = some '\n') :
    (onLines ls ++ r).head? = some '\n' := by
  cases ls with
  | nil => exact h
  | cons => rfl

/-- A line without a newline in it is known once another one follows. -/
theorem Text.line_inj {l l' : String} {r r' : List Char} (hl : '\n' ∉ l.toList)
    (hl' : '\n' ∉ l'.toList) (hr : r.head? = some '\n') (hr' : r'.head? = some '\n')
    (h : l.toList ++ r = l'.toList ++ r') : l = l' ∧ r = r' := by
  obtain ⟨r, rfl⟩ := List.head?_eq_some_iff.1 hr
  obtain ⟨r', rfl⟩ := List.head?_eq_some_iff.1 hr'
  obtain ⟨hll, rfl⟩ := append_cons_inj hl hl' h
  exact ⟨String.toList_inj.1 hll, rfl⟩

/-- An assignment to a pic variable is one line. -/
theorem ParamSet.newline_not_mem_assignment (params : ParamSet) (p : Param) :
    '\n' ∉ (p.variableName ++ "=" ++ (params.value p).text ++ ";").toList := by
  have hname : '\n' ∉ p.variableName.toList := by cases p <;> decide
  simp [hname, (params.value p).newline_not_mem_text]

/-- Assignments tell the values of the parameters that they are for. -/
theorem ParamSet.text_value_eq {params params' : ParamSet} {r r' : List Char}
    (hr : r.head? = some '\n') (hr' : r'.head? = some '\n') (ps : List Param)
    (h : Text.onLines (ps.map fun p => p.variableName ++ "=" ++ (params.value p).text ++ ";") ++ r =
      Text.onLines (ps.map fun p => p.variableName ++ "=" ++ (params'.value p).text ++ ";") ++ r') :
    (∀ p ∈ ps, (params.value p).text = (params'.value p).text) ∧ r = r' := by
  induction ps with
  | nil => exact ⟨by simp, h⟩
  | cons p ps ih =>
    rw [List.map_cons, List.map_cons, Text.onLines_cons, Text.onLines_cons, List.cons_append,
      List.cons_append, List.append_assoc, List.append_assoc] at h
    obtain ⟨hp, htail⟩ := Text.line_inj (params.newline_not_mem_assignment p)
      (params'.newline_not_mem_assignment p) (Text.head?_onLines_append hr)
      (Text.head?_onLines_append hr') (List.cons.inj h).2
    obtain ⟨hps, hrr⟩ := ih htail
    refine ⟨List.forall_mem_cons.2 ⟨?_, hps⟩, hrr⟩
    have hvalue := congrArg String.toList hp
    simp only [String.toList_append, List.append_assoc, List.append_cancel_left_eq] at hvalue
    exact String.toList_inj.1 (List.append_cancel_right hvalue)

namespace Statement

variable {ss ss' : List Statement}

/-- The lines of statements read from the end; the last statement comes first. -/
def linesBack (ss : List Statement) : List Char :=
  ss.flatMap fun s => s.text.toList.reverse ++ ['\n']

/-- Read from the end, the lines of statements are in the opposite order. -/
theorem reverse_onLines_text (ss : List Statement) :
    (Text.onLines (ss.map text)).reverse = linesBack ss.reverse := by
  rw [Text.onLines, linesBack, List.flatMap_map, List.reverse_flatMap]
  simp only [Function.comp_def, List.reverse_cons]

/-- Plain statements are had back from their lines, read from the end one by one. -/
theorem eq_of_linesBack_eq (hss : ∀ s ∈ ss, s.Plain) (hss' : ∀ s ∈ ss', s.Plain)
    (h : linesBack ss = linesBack ss') : ss = ss' := by
  induction ss generalizing ss' with
  | nil =>
    cases ss' with
    | nil => rfl
    | cons => simp [linesBack] at h
  | cons s ss ih =>
    cases ss' with
    | nil => simp [linesBack] at h
    | cons s' ss' =>
      rw [List.forall_mem_cons] at hss hss'
      rw [linesBack, linesBack, List.flatMap_cons, List.flatMap_cons, List.append_assoc,
        List.append_assoc] at h
      -- labels may have lines of their own, so a statement's form tells where it starts
      obtain ⟨rfl, hrest⟩ := hss.1.text_inj hss'.1 h
      rw [ih hss.2 hss'.2 hrest]

/-- Plain statements are known from their lines. -/
theorem eq_of_onLines_eq (hss : ∀ s ∈ ss, s.Plain) (hss' : ∀ s ∈ ss', s.Plain)
    (h : Text.onLines (ss.map text) = Text.onLines (ss'.map text)) : ss = ss' := by
  have hback := congrArg List.reverse h
  rw [reverse_onLines_text, reverse_onLines_text] at hback
  refine List.reverse_inj.1 (eq_of_linesBack_eq ?_ ?_ hback)
  · simpa using hss
  · simpa using hss'

end Statement

namespace Document

/-- The text of a picture: what is before the parameters, the parameters, and the statements.
    -/
theorem toList_toPic (doc : Document) (library : String) : (doc.toPic library).toList =
    (".PS\ncopy \"" ++ library ++ "\";").toList ++
      (Text.onLines doc.params.assignments ++
        (Text.onLines (doc.statements.map Statement.text) ++ "\n.PE\n".toList)) := by
  rw [toPic, picLines, String.toList_append, Text.toList_intercalate_newline]
  simp [Text.onLines]

end Document

/-- Documents without placed comments that have the same pic text have the same
    statements, and the same values of the parameters are printed. -/
theorem Diagram.statements_eq_of_toPic_eq {d d' : Diagram} {doc doc' : Document}
    (library : String) (h : d.Reachable) (h' : d'.Reachable)
    (hplaced : ∀ s ∈ d.log, s.Unplaced) (hplaced' : ∀ s ∈ d'.log, s.Unplaced)
    (hdoc : d.finish = .ok doc) (hdoc' : d'.finish = .ok doc')
    (htext : doc.toPic library = doc'.toPic library) :
    doc.statements = doc'.statements ∧
      ∀ p, (doc.params.value p).text = (doc'.params.value p).text := by
  have hchars := congrArg String.toList htext
  rw [Document.toList_toPic, Document.toList_toPic] at hchars
  have hend : "\n.PE\n".toList.head? = some '\n' := by decide
  obtain ⟨hvalues, hstatements⟩ := ParamSet.text_value_eq (Text.head?_onLines_append hend)
    (Text.head?_onLines_append hend) Param.all (List.append_cancel_left hchars)
  -- the end of the text is the same, so the statements before it are
  refine ⟨?_, fun p => hvalues p (by cases p <;> simp [Param.all])⟩
  exact Statement.eq_of_onLines_eq (h.plain_of_finish hplaced hdoc)
    (h'.plain_of_finish hplaced' hdoc') (List.append_cancel_right hstatements)

/-- A text of lines tells what leads it. -/
theorem Arg.lead_eq_of_ofText_eq {lead lead' : Option String} {text text' : String}
    (h : ofText lead text = ofText lead' text') : lead = lead' := by
  unfold ofText at h
  split at h <;> split at h <;> exact (Arg.lines.inj h).1

/-- A comment without movement and size is not placed. -/
theorem Statement.unplaced_comment (object name text : String) :
    (comment object name "" none text).Unplaced := by
  intro object' name' movement size text' h
  simp only [comment, Statement.mk.injEq, List.cons.injEq, Arg.raw.injEq] at h
  exact ⟨h.2.2.2.1.symm, (Arg.lead_eq_of_ofText_eq h.2.2.2.2.1).symm⟩

theorem Statement.unplaced_of_name_ne {s : Statement} (h : s.name ≠ "comment") : s.Unplaced := by
  rintro object name movement size text rfl
  exact absurd rfl h

/-- An object whose label has a quote and ends in a backslash, with a comment. -/
def Op.awkwardLabel : List Op :=
  [.addParticipant (.object "a\"b\\"), .comment ⟨0⟩ { text := "x\ny" }]

theorem Op.log_awkwardLabel : (runAll awkwardLabel .empty).2.log =
    [.object (NameKind.participant.name 0) "a\"b\\",
      .comment (NameKind.participant.name 0) (NameKind.comment.name 1) "" none "x\ny"] := rfl

/-- The comment beside the awkward label is not placed. -/
theorem Op.unplaced_awkwardLabel : ∀ s ∈ (runAll awkwardLabel .empty).2.log, s.Unplaced := by
  rw [log_awkwardLabel]
  exact List.forall_mem_cons.2 ⟨Statement.unplaced_of_name_ne (by decide),
    List.forall_mem_singleton.2 (Statement.unplaced_comment _ _ _)⟩

/-- Taking no step leaves no trace in the text, and so none in the statements. -/
theorem Diagram.statements_eq_with_awkwardLabel :
    ∃ doc doc', (Op.runAll Op.awkwardLabel .empty).2.finish = .ok doc ∧
      (Op.runAll (.step 0 :: Op.awkwardLabel) .empty).2.finish = .ok doc' ∧
      doc.statements = doc'.statements := by
  refine ⟨_, _, rfl, rfl, ?_⟩
  exact (statements_eq_of_toPic_eq "seq.pic" ⟨_, rfl⟩ ⟨_, rfl⟩ Op.unplaced_awkwardLabel
    Op.unplaced_awkwardLabel rfl rfl rfl).1

end Lifelines
