import Lifelines.Proofs.Naming
import Lifelines.Proofs.Quoted

/-!
# Statements read back

Most statements call a macro with names and perhaps a label, and a comment has
lines in the place of the label. Such a statement is had back from its written
form, even if it is not known where the statement starts: it ends with its
labels, which are read from the end, and neither a quote nor a newline stands
before them.

* `Statement.Plain`: the statements of this form;
* `Statement.opening`: what is written before the labels;
* `Statement.Plain.text_inj`: of the plain statements that a line may start and a
  text end with, there is one.
-/

namespace Lifelines

namespace Arg

/-- What an argument says outside quotes. -/
def field? : Arg → Option String
  | ident name => some name
  | raw fragment => some fragment
  | _ => none

/-- The labels of an argument. -/
def labels : Arg → List String
  | quoted label => [label]
  | lines _ ls => ls
  | _ => []

end Arg

namespace Statement

/-- What the arguments of a statement say outside quotes. -/
def fields (s : Statement) : List String :=
  s.args.filterMap Arg.field?

/-- The labels of a statement. -/
def labels (s : Statement) : List String :=
  s.args.flatMap Arg.labels

/-- The written form of a statement up to its labels. -/
def opening (s : Statement) : String :=
  s.name ++ "(" ++ ",".intercalate (if s.labels = [] then s.fields else s.fields ++ [""])

/-- A call with names, and with a label or with lines after them if there are any. -/
inductive Plain : Statement → Prop
  | bare {name : String} (names : List String) : Text.IsWord name →
    (∀ n ∈ names, Text.IsWord n) → Plain ⟨name, names.map .ident⟩
  | labelled {name : String} (names : List String) (label : String) : Text.IsWord name →
    (∀ n ∈ names, Text.IsWord n) → Plain ⟨name, names.map .ident ++ [.quoted label]⟩
  | lined {name : String} (names : List String) {ls : List String} : Text.IsWord name →
    (∀ n ∈ names, Text.IsWord n) → ls ≠ [] →
      Plain ⟨name, names.map .ident ++ [.raw "", .lines none ls]⟩

/-! ### The parts of a statement -/

section

variable (name label : String) (names ls : List String)

theorem fields_bare : fields ⟨name, names.map .ident⟩ = names := by
  simp [fields, List.filterMap_map, Function.comp_def, Arg.field?]

theorem labels_bare : labels ⟨name, names.map .ident⟩ = [] := by
  simp [labels, List.flatMap_map, Arg.labels]

theorem fields_labelled : fields ⟨name, names.map .ident ++ [.quoted label]⟩ = names := by
  simp [fields, List.filterMap_map, Function.comp_def, Arg.field?]

theorem labels_labelled : labels ⟨name, names.map .ident ++ [.quoted label]⟩ = [label] := by
  simp [labels, List.flatMap_map, Arg.labels]

theorem fields_lined :
    fields ⟨name, names.map .ident ++ [.raw "", .lines none ls]⟩ = names ++ [""] := by
  simp [fields, List.filterMap_map, Function.comp_def, Arg.field?]

theorem labels_lined :
    labels ⟨name, names.map .ident ++ [.raw "", .lines none ls]⟩ = ls := by
  simp [labels, List.flatMap_map, Arg.labels]

end

/-- The plain statement with some parts. -/
def ofParts (name : String) (fields labels : List String) : Statement :=
  ⟨name, (fields.filter (· ≠ "")).map .ident ++
    match labels with
    | [] => []
    | l :: ls => if "" ∈ fields then [.raw "", .lines none (l :: ls)] else [.quoted l]⟩

variable {s s' : Statement}

theorem filter_words {names : List String} (h : ∀ n ∈ names, Text.IsWord n) :
    names.filter (· ≠ "") = names :=
  List.filter_eq_self.2 fun n hn => by simpa using (h n hn).nonempty

theorem empty_not_mem_words {names : List String} (h : ∀ n ∈ names, Text.IsWord n) :
    "" ∉ names :=
  fun hn => (h _ hn).nonempty rfl

/-- A plain statement is what its parts say. -/
theorem Plain.ofParts_eq (h : s.Plain) : ofParts s.name s.fields s.labels = s := by
  cases h with
  | bare names _ hnames => rw [fields_bare, labels_bare, ofParts, filter_words hnames]; simp
  | labelled names label _ hnames =>
    rw [fields_labelled, labels_labelled, ofParts, filter_words hnames]
    simp [empty_not_mem_words hnames]
  | @lined _ names ls _ hnames hls =>
    obtain ⟨l, ls, rfl⟩ := List.exists_cons_of_ne_nil hls
    rw [fields_lined, labels_lined, ofParts, List.filter_append, filter_words hnames]
    simp

theorem Plain.name_isWord (h : s.Plain) : Text.IsWord s.name := by
  cases h <;> assumption

/-- No field of a plain statement has a blank, a quote or a bracket in it. -/
theorem Plain.fields_chars (h : s.Plain) : ∀ f ∈ s.fields, ∀ c ∈ f.toList,
    Text.isWordChar c = true := by
  intro f hf
  cases h with
  | bare names _ hnames => rw [fields_bare] at hf; exact (hnames f hf).chars
  | labelled names _ _ hnames => rw [fields_labelled] at hf; exact (hnames f hf).chars
  | lined names _ hnames _ =>
    rw [fields_lined, List.mem_append, List.mem_singleton] at hf
    rcases hf with hf | rfl
    · exact (hnames f hf).chars
    · simp

/-- Only before labels may a field be empty. -/
theorem Plain.fields_words (h : s.Plain) (hl : s.labels = []) :
    ∀ f ∈ s.fields, Text.IsWord f := by
  cases h with
  | bare names _ hnames => rwa [fields_bare]
  | labelled => simp [labels_labelled] at hl
  | lined names _ _ hls => exact absurd ((labels_lined _ _ _).symm.trans hl) hls

/-! ### The written form of a statement -/

/-- What comes last among texts with commas between them is at the end. -/
theorem intercalate_concat (fs : List String) (t : String) :
    ",".intercalate (fs ++ [t]) = ",".intercalate (fs ++ [""]) ++ t := by
  by_cases h : fs = []
  · simp [h]
  · simp [String.intercalate_append_of_ne_nil h]

/-- A plain statement is written with its labels at the end. -/
theorem Plain.text_eq (h : s.Plain) :
    s.text = s.opening ++ " ".intercalate (s.labels.map Text.quote) ++ ");" := by
  have hident : Arg.text ∘ Arg.ident = id := rfl
  cases h with
  | bare => simp [text, opening, labels_bare, fields_bare, hident]
  | labelled names label =>
    rw [opening, labels_labelled, fields_labelled, text, List.map_append, List.map_map, hident,
      List.map_id, List.map_singleton, intercalate_concat]
    simp [Arg.text, String.append_assoc]
  | @lined _ names ls _ _ hls =>
    have htexts : (names.map Arg.ident ++ [Arg.raw "", Arg.lines none ls]).map Arg.text =
        names ++ [""] ++ [" ".intercalate (ls.map Text.quote)] := by
      simp [hident, Arg.text, Arg.segments]
    rw [opening, labels_lined, fields_lined, text, htexts, if_neg hls, intercalate_concat]
    simp [String.append_assoc]

/-- The opening of a statement, character by character. -/
theorem toList_opening (s : Statement) : s.opening.toList = s.name.toList ++ '(' ::
    [','].intercalate
      ((if s.labels = [] then s.fields else s.fields ++ [""]).map String.toList) := by
  simp [opening]

/-- The characters that stand before labels. -/
def isOpeningChar (c : Char) : Bool :=
  Text.isWordChar c || c == '(' || c == ','

/-- A character of the whole is one of the parts or stands between them. -/
theorem mem_intercalate {x c : Char} {ls : List (List Char)} (h : c ∈ [x].intercalate ls) :
    c = x ∨ ∃ l ∈ ls, c ∈ l := by
  induction ls with
  | nil => exact absurd h List.not_mem_nil
  | cons l ls ih =>
    by_cases hls : ls = []
    · subst hls
      rw [List.intercalate_singleton] at h
      exact .inr ⟨l, List.mem_singleton_self l, h⟩
    · rw [List.intercalate_cons_of_ne_nil hls, List.mem_append, List.mem_append,
        List.mem_singleton] at h
      rcases h with (h | h) | h
      · exact .inr ⟨l, List.mem_cons_self, h⟩
      · exact .inl h
      · refine (ih h).imp_right ?_
        rintro ⟨l', hl', hc⟩
        exact ⟨l', List.mem_cons_of_mem _ hl', hc⟩

/-- Up to its labels a plain statement has no quote and no newline. -/
theorem Plain.opening_chars (h : s.Plain) : ∀ c ∈ s.opening.toList, isOpeningChar c = true := by
  intro c hc
  rw [toList_opening, List.mem_append, List.mem_cons] at hc
  rcases hc with hc | rfl | hc
  · simp [isOpeningChar, h.name_isWord.chars c hc]
  · decide
  · rcases mem_intercalate hc with rfl | ⟨l, hl, hc⟩
    · decide
    · obtain ⟨f, hf, rfl⟩ := List.mem_map.1 hl
      have hfield : f ∈ s.fields ∨ f = "" := by
        split at hf
        · exact .inl hf
        · simpa using hf
      rcases hfield with hf | rfl
      · simp [isOpeningChar, h.fields_chars f hf c hc]
      · simp at hc

/-! ### Reading a statement -/

/-- Fields with commas between them are told apart, if there are any. -/
theorem intercalate_inj {fs fs' : List String} (hfs : fs ≠ []) (hfs' : fs' ≠ [])
    (hcomma : ∀ f ∈ fs, ',' ∉ f.toList) (hcomma' : ∀ f ∈ fs', ',' ∉ f.toList)
    (h : [','].intercalate (fs.map String.toList) = [','].intercalate (fs'.map String.toList)) :
    fs = fs' := by
  have hsplit := congrArg (List.splitOn ',') h
  rw [List.splitOn_intercalate _ (by simpa using hcomma) (by simpa using hfs),
    List.splitOn_intercalate _ (by simpa using hcomma') (by simpa using hfs')] at hsplit
  exact (List.map_inj_right fun _ _ => String.toList_inj.1).1 hsplit

theorem comma_not_mem {f : String} (h : ∀ c ∈ f.toList, Text.isWordChar c = true) :
    ',' ∉ f.toList :=
  fun hc => absurd (h _ hc) (by decide)

/-- Words with commas between them are told apart; no words are written like one
    empty field, which a word is not. -/
theorem words_inj {ws ws' : List String} (hws : ∀ w ∈ ws, Text.IsWord w)
    (hws' : ∀ w ∈ ws', Text.IsWord w)
    (h : [','].intercalate (ws.map String.toList) = [','].intercalate (ws'.map String.toList)) :
    ws = ws' := by
  have hcomma : ∀ w ∈ ws, ',' ∉ w.toList := fun w hw => comma_not_mem (hws w hw).chars
  have hcomma' : ∀ w ∈ ws', ',' ∉ w.toList := fun w hw => comma_not_mem (hws' w hw).chars
  have hempty : ∀ f ∈ [""], ',' ∉ f.toList := by simp
  by_cases hs : ws = [] <;> by_cases hs' : ws' = []
  · rw [hs, hs']
  · have hone := intercalate_inj (List.cons_ne_nil "" []) hs' hempty hcomma' (by simpa [hs] using h)
    exact absurd (hone ▸ List.mem_singleton_self "") (empty_not_mem_words hws')
  · have hone := intercalate_inj hs (List.cons_ne_nil "" []) hcomma hempty (by simpa [hs'] using h)
    exact absurd (hone ▸ List.mem_singleton_self "") (empty_not_mem_words hws)
  · exact intercalate_inj hs hs' hcomma hcomma' h

/-- The commas of an opening are those between its fields. -/
theorem Plain.comma_not_mem_fields (h : s.Plain) : ∀ f ∈ s.fields ++ [""], ',' ∉ f.toList := by
  intro f hf
  rw [List.mem_append, List.mem_singleton] at hf
  rcases hf with hf | rfl
  · exact comma_not_mem (h.fields_chars f hf)
  · simp

theorem Plain.paren_not_mem_name (h : s.Plain) : '(' ∉ s.name.toList :=
  fun hc => absurd (h.name_isWord.chars _ hc) (by decide)

/-- The opening and the labels make a plain statement. -/
theorem Plain.eq_of_opening_eq (h : s.Plain) (h' : s'.Plain) (hl : s.labels = s'.labels)
    (ho : s.opening = s'.opening) : s = s' := by
  have hchars := congrArg String.toList ho
  rw [toList_opening, toList_opening, ← hl] at hchars
  obtain ⟨hname, hfields⟩ :=
    Text.append_cons_inj h.paren_not_mem_name h'.paren_not_mem_name hchars
  rw [← h.ofParts_eq, ← h'.ofParts_eq, ← hl, String.toList_inj.1 hname]
  congr 1
  -- with labels the opening goes on after the last field, as if there were an empty one
  by_cases hnone : s.labels = []
  · rw [if_pos hnone, if_pos hnone] at hfields
    exact words_inj (h.fields_words hnone) (h'.fields_words (hl ▸ hnone)) hfields
  · rw [if_neg hnone, if_neg hnone] at hfields
    exact List.append_cancel_right (intercalate_inj (by simp) (by simp) h.comma_not_mem_fields
      h'.comma_not_mem_fields hfields)

/-- Read from its end, a plain statement has its labels before its opening. -/
theorem Plain.reverse_text (h : s.Plain) : s.text.toList.reverse =
    ';' :: ')' :: (Text.quotedBack s.labels.reverse ++ s.opening.toList.reverse) := by
  have hlabels := Text.reverse_intercalate_quote s.labels.reverse
  rw [List.reverse_reverse] at hlabels
  rw [h.text_eq, String.toList_append, String.toList_append, List.reverse_append,
    List.reverse_append, hlabels]
  rfl

/-- Read from the end, a plain statement is known once the line that it starts is. -/
theorem Plain.text_inj (h : s.Plain) (h' : s'.Plain) {r r' : List Char}
    (heq : s.text.toList.reverse ++ '\n' :: r = s'.text.toList.reverse ++ '\n' :: r') :
    s = s' ∧ r = r' := by
  -- what is read next after the labels
  have hlast : ∀ {t : Statement}, t.Plain → ∃ c cs, t.opening.toList.reverse = c :: cs ∧
      c ∉ ['\\', '"', ' '] := by
    intro t ht
    obtain ⟨c, cs, hcs⟩ := List.exists_cons_of_ne_nil
      (show t.opening.toList.reverse ≠ [] by simp [toList_opening])
    refine ⟨c, cs, hcs, fun hc => ?_⟩
    have hopen := ht.opening_chars c (List.mem_reverse.1 (hcs ▸ List.mem_cons_self))
    simp only [List.mem_cons, List.not_mem_nil, or_false] at hc
    rcases hc with rfl | rfl | rfl <;> exact absurd hopen (by decide)
  have hline : ∀ {t : Statement}, t.Plain → '\n' ∉ t.opening.toList.reverse := fun ht hc =>
    absurd (ht.opening_chars _ (List.mem_reverse.1 hc)) (by decide)
  rw [h.reverse_text, h'.reverse_text] at heq
  -- first the labels are read, then the rest of the line
  obtain ⟨c, cs, hcs, hc⟩ := hlast h
  obtain ⟨c', cs', hcs', hc'⟩ := hlast h'
  have hbody : Text.quotedBack s.labels.reverse ++ c :: (cs ++ '\n' :: r) =
      Text.quotedBack s'.labels.reverse ++ c' :: (cs' ++ '\n' :: r') := by
    simpa [hcs, hcs'] using heq
  obtain ⟨hlabels, hopening⟩ := Text.quotedBack_inj hc hc' hbody
  rw [← List.cons_append, ← List.cons_append, ← hcs, ← hcs'] at hopening
  obtain ⟨ho, hr⟩ := Text.append_cons_inj (hline h) (hline h') hopening
  refine ⟨h.eq_of_opening_eq h' (List.reverse_inj.1 hlabels) ?_, hr⟩
  exact String.toList_inj.1 (List.reverse_inj.1 ho)

end Statement

end Lifelines
