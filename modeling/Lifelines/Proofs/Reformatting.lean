import Lifelines.Proofs.FileWriting
import Lifelines.Proofs.Words
import Mathlib.Data.List.Infix
import Mathlib.Logic.Relation

/-!
# The form of a settings file

Of a settings file only the words count, and of these only the ones in lines that are no
comments. So lines that are blank or comments may be put anywhere, even between a flag and
its value, lines may be ended in either way, and blanks may be added where a line starts or
ends. However often a file is changed like this, the settings in it stay the same.

* `Settings.Reformats`: the changes that concern the form alone;
* `Settings.wordsIn`: the words of a text, line by line;
* `Settings.Reformats.wordsIn_eq`: one change keeps the words;
* `Settings.load_of_reformatted`: any number of changes keep the settings.
-/

namespace Lifelines.Settings

open Text (isBlank linesOf wordsOf trimChars)

/-! ### Changes of the form -/

/-- A line that does not count: it has nothing but blanks, or the first character that is
    no blank is `#`. -/
def IsSkipped (line : String) : Prop :=
  (∀ c ∈ line.toList, isBlank c = true) ∨
    ∃ blanks comment, line.toList = blanks ++ '#' :: comment ∧ ∀ c ∈ blanks, isBlank c = true

/-- A text of blanks that does not end a line. -/
def IsPadding (blanks : String) : Prop :=
  ∀ c ∈ blanks.toList, isBlank c = true ∧ c ≠ '\n'

instance (blanks : String) : Decidable (IsPadding blanks) :=
  List.decidableBAll _ blanks.toList

/-- After the text, a line starts. -/
def StartsLine (before : String) : Prop :=
  before = "" ∨ ∃ text, before = text ++ "\n"

/-- Where the text starts, a line ends. -/
def EndsLine (after : String) : Prop :=
  after = "" ∨ (∃ text, after = "\n" ++ text) ∨ ∃ text, after = "\r\n" ++ text

/-- A text with a carriage return before each newline, in addition to those that are there. -/
def withReturns (text : String) : String :=
  String.ofList (text.toList.flatMap fun c => if c = '\n' then ['\r', '\n'] else [c])

/-- A change that concerns the form of a settings file alone. -/
inductive Reformats : String → String → Prop
  /-- A line that does not count is put between two lines, or before or after all of them. -/
  | insert {x y line : String} (hx : StartsLine x) (hinline : '\n' ∉ line.toList)
    (hskipped : IsSkipped line) : Reformats (x ++ y) (x ++ line ++ "\n" ++ y)
  /-- All lines are ended in another way. -/
  | returns (text : String) : Reformats text (withReturns text)
  /-- Blanks are added where a line starts. -/
  | padStart {x y blanks : String} (hx : StartsLine x) (hblanks : IsPadding blanks) :
    Reformats (x ++ y) (x ++ blanks ++ y)
  /-- Blanks are added where a line ends. -/
  | padEnd {x y blanks : String} (hy : EndsLine y) (hblanks : IsPadding blanks) :
    Reformats (x ++ y) (x ++ blanks ++ y)

/-! ### The words of a line -/

/-- The words of a line, if it counts. -/
def wordsOfLine (l : List Char) : List (List Char) :=
  match l.dropWhile isBlank with
  | [] => []
  | c :: rest => if c = '#' then [] else wordsOf (c :: rest)

/-- The words of a text, line by line. -/
def wordsIn (cs : List Char) : List (List Char) :=
  (linesOf cs).flatMap wordsOfLine

variable {l cs bs : List Char}

theorem wordsOfLine_of_blank (h : ∀ c ∈ l, isBlank c = true) : wordsOfLine l = [] := by
  rw [wordsOfLine, List.dropWhile_eq_nil_iff.2 h]

/-- A line that starts as a comment has no words. -/
theorem wordsOfLine_comment (hbs : ∀ b ∈ bs, isBlank b = true) (comment : List Char) :
    wordsOfLine (bs ++ '#' :: comment) = [] := by
  rw [wordsOfLine, List.dropWhile_append_of_pos hbs,
    List.dropWhile_cons_of_neg (by decide)]
  rfl

theorem wordsOfLine_blanks_append (hbs : ∀ b ∈ bs, isBlank b = true) (l : List Char) :
    wordsOfLine (bs ++ l) = wordsOfLine l := by
  rw [wordsOfLine, List.dropWhile_append_of_pos hbs, wordsOfLine]

/-- Blanks at the end of a line do not count. -/
theorem wordsOfLine_append_blanks (hbs : ∀ b ∈ bs, isBlank b = true) (l : List Char) :
    wordsOfLine (l ++ bs) = wordsOfLine l := by
  -- whether a line counts is told by its first character that is not blank
  cases hl : l.dropWhile isBlank with
  | nil =>
    have hblank := List.dropWhile_eq_nil_iff.1 hl
    rw [wordsOfLine_of_blank (List.forall_mem_append.2 ⟨hblank, hbs⟩),
      wordsOfLine_of_blank hblank]
  | cons c rest =>
    have happend : (l ++ bs).dropWhile isBlank = c :: rest ++ bs := by
      rw [List.dropWhile_append, hl]
      rfl
    simp only [wordsOfLine, happend, hl, List.cons_append]
    rw [← List.cons_append, Text.wordsOf_append_blanks hbs]

/-- Lines that count are those whose words are read. -/
theorem words_of_line (l : List Char) :
    ([Text.trim (String.ofList l)].filter isRelevant).flatMap Text.words =
      (wordsOfLine l).map String.ofList := by
  cases hl : l.dropWhile isBlank with
  | nil =>
    have htrim : Text.trim (String.ofList l) = "" := by simp [Text.trim, trimChars, hl]
    simp [htrim, wordsOfLine, hl, isRelevant]
  | cons c rest =>
    obtain ⟨cs, htrim, hwords⟩ := Text.exists_trimChars hl
    have htrim' : Text.trim (String.ofList l) = String.ofList (c :: cs) := by
      rw [Text.trim, String.toList_ofList, htrim]
    by_cases hc : c = '#' <;> simp [htrim', wordsOfLine, hl, isRelevant, hc, Text.words, hwords]

/-- The words of a text are those of its lines. -/
theorem wordsOfText_eq (text : String) :
    wordsOfText text = (wordsIn text.toList).map String.ofList := by
  rw [wordsOfText, Text.lines, wordsIn, List.map_map, List.map_flatMap]
  induction linesOf text.toList with
  | nil => rfl
  | cons l ls ih =>
    rw [List.map_cons, Function.comp_apply, ← List.singleton_append, List.filter_append,
      List.flatMap_append, ih, words_of_line, List.flatMap_cons]

/-! ### The words of a text -/

/-- A text without a newline is one line. -/
theorem wordsIn_line (hl : '\n' ∉ l) : wordsIn l = wordsOfLine l := by
  rw [wordsIn, Text.linesOf_of_not_mem hl]
  split_ifs with h
  · rw [h]
    rfl
  · exact List.flatMap_singleton ..

theorem isBlank_return : ∀ b ∈ ['\r'], isBlank b = true :=
  List.forall_mem_singleton.2 (by decide)

/-- The words of the first line come first. -/
theorem wordsIn_line_append (hl : '\n' ∉ l) (rest : List Char) :
    wordsIn (l ++ '\n' :: rest) = wordsOfLine l ++ wordsIn rest := by
  obtain ⟨line, hlines, hline⟩ := Text.exists_linesOf_append_newline hl rest
  rw [wordsIn, hlines, List.flatMap_cons, wordsIn]
  rcases hline with rfl | rfl
  · rfl
  · rw [wordsOfLine_append_blanks isBlank_return]

/-- A newline separates the words before it from those after it. -/
theorem wordsIn_append_newline (x y : List Char) :
    wordsIn (x ++ '\n' :: y) = wordsIn x ++ wordsIn y := by
  induction x using Text.linewise with
  | last l hl => rw [wordsIn_line_append hl, wordsIn_line hl]
  | line l rest hl ih =>
    rw [List.append_assoc, List.cons_append, wordsIn_line_append hl, ih, wordsIn_line_append hl,
      List.append_assoc]

/-- Blanks before the first line. -/
theorem wordsIn_blanks_append (hbs : ∀ b ∈ bs, isBlank b = true ∧ b ≠ '\n') (y : List Char) :
    wordsIn (bs ++ y) = wordsIn y := by
  have hblank : ∀ b ∈ bs, isBlank b = true := fun b hb => (hbs b hb).1
  have hinline : ∀ l : List Char, '\n' ∉ l → '\n' ∉ bs ++ l := fun l hl hmem =>
    (List.mem_append.1 hmem).elim (fun hb => (hbs _ hb).2 rfl) hl
  induction y using Text.linewise with
  | last l hl => rw [wordsIn_line (hinline l hl), wordsIn_line hl, wordsOfLine_blanks_append hblank]
  | line l rest hl _ =>
    rw [← List.append_assoc, wordsIn_line_append (hinline l hl), wordsIn_line_append hl,
      wordsOfLine_blanks_append hblank]

/-- Blanks after the last line. -/
theorem wordsIn_append_blanks (hbs : ∀ b ∈ bs, isBlank b = true ∧ b ≠ '\n') (x : List Char) :
    wordsIn (x ++ bs) = wordsIn x := by
  induction x using Text.linewise with
  | last l hl =>
    have hinline : '\n' ∉ l ++ bs := fun hmem =>
      (List.mem_append.1 hmem).elim hl fun hb => (hbs _ hb).2 rfl
    rw [wordsIn_line hinline, wordsIn_line hl,
      wordsOfLine_append_blanks fun b hb => (hbs b hb).1]
  | line l rest hl ih =>
    rw [List.append_assoc, List.cons_append, wordsIn_line_append hl, ih, wordsIn_line_append hl]

/-- A carriage return before a newline is at the end of a line, where it does not count. -/
theorem wordsIn_returns (cs : List Char) :
    wordsIn (cs.flatMap fun c => if c = '\n' then ['\r', '\n'] else [c]) = wordsIn cs := by
  have hline : ∀ l : List Char, '\n' ∉ l →
      (l.flatMap fun c => if c = '\n' then ['\r', '\n'] else [c]) = l := by
    intro l hl
    refine (List.flatMap_congr fun c hc => if_neg ?_).trans (List.flatMap_singleton' l)
    rintro rfl
    exact hl hc
  induction cs using Text.linewise with
  | last l hl => rw [hline l hl]
  | line l rest hl ih =>
    -- with the return at its end, the line has the same words
    have hreturn : '\n' ∉ l ++ ['\r'] := by simpa using hl
    rw [List.flatMap_append, hline l hl, List.flatMap_cons, if_pos rfl, wordsIn_line_append hl,
      ← ih, ← wordsOfLine_append_blanks isBlank_return l, ← wordsIn_line_append hreturn]
    simp

/-! ### Changes of the form keep the settings -/

/-- A text that ends its last line is read apart from what follows. -/
theorem wordsIn_of_startsLine {x : String} (hx : StartsLine x) (y : List Char) :
    wordsIn (x.toList ++ y) = wordsIn x.toList ++ wordsIn y := by
  rcases hx with rfl | ⟨text, rfl⟩
  · rfl
  · have htext : (text ++ "\n").toList = text.toList ++ '\n' :: [] := by simp
    have hend : wordsIn [] = [] := rfl
    rw [htext, List.append_assoc, List.cons_append, List.nil_append, wordsIn_append_newline,
      wordsIn_append_newline, hend, List.append_nil]

/-- Blanks at the end of a line do not count within a text either. -/
theorem wordsIn_of_endsLine {y : String} (hy : EndsLine y)
    (hbs : ∀ b ∈ bs, isBlank b = true ∧ b ≠ '\n') (x : List Char) :
    wordsIn (x ++ bs ++ y.toList) = wordsIn (x ++ y.toList) := by
  rcases hy with rfl | ⟨text, rfl⟩ | ⟨text, rfl⟩
  · simpa using wordsIn_append_blanks hbs x
  · have htext : ("\n" ++ text).toList = '\n' :: text.toList := by simp
    rw [htext, wordsIn_append_newline, wordsIn_append_newline, wordsIn_append_blanks hbs]
  -- the carriage return is a blank like those before it
  · have htext : ∀ z, z ++ ("\r\n" ++ text).toList = z ++ ['\r'] ++ '\n' :: text.toList := by simp
    have hreturn : ∀ b ∈ ['\r'], isBlank b = true ∧ b ≠ '\n' :=
      List.forall_mem_singleton.2 (by decide)
    rw [htext, htext, wordsIn_append_newline, wordsIn_append_newline,
      wordsIn_append_blanks hreturn, wordsIn_append_blanks hreturn, wordsIn_append_blanks hbs]

/-- A line that does not count has no words. -/
theorem wordsOfLine_of_isSkipped {line : String} (h : IsSkipped line) :
    wordsOfLine line.toList = [] := by
  rcases h with hblank | ⟨blanks, comment, hline, hblanks⟩
  · exact wordsOfLine_of_blank hblank
  · rw [hline, wordsOfLine_comment hblanks]

variable {text text' : String}

/-- A change of the form alone leaves the words as they are. -/
theorem Reformats.wordsIn_eq (h : Reformats text text') :
    wordsIn text'.toList = wordsIn text.toList := by
  cases h with
  | @insert x y line hx hinline hskipped =>
    have hline : (x ++ line ++ "\n" ++ y).toList =
        x.toList ++ (line.toList ++ '\n' :: y.toList) := by simp
    rw [hline, String.toList_append, wordsIn_of_startsLine hx, wordsIn_of_startsLine hx,
      wordsIn_line_append hinline, wordsOfLine_of_isSkipped hskipped, List.nil_append]
  | returns => rw [withReturns, String.toList_ofList, wordsIn_returns]
  | @padStart x y blanks hx hblanks =>
    rw [String.toList_append, String.toList_append, String.toList_append, List.append_assoc,
      wordsIn_of_startsLine hx, wordsIn_of_startsLine hx, wordsIn_blanks_append hblanks]
  | @padEnd x y blanks hy hblanks =>
    rw [String.toList_append, String.toList_append, String.toList_append,
      wordsIn_of_endsLine hy hblanks]

/-- A change of the form keeps the settings. -/
theorem Reformats.ofText_eq (h : Reformats text text') : ofText text' = ofText text := by
  rw [ofText, ofText, wordsOfText_eq, wordsOfText_eq, h.wordsIn_eq]

/-- Any number of such changes leaves the settings as they are. -/
theorem ofText_eq_of_reformatted (h : Relation.EqvGen Reformats text text') :
    ofText text = ofText text' := by
  induction h with
  | rel text text' h => exact h.ofText_eq.symm
  | refl text => rfl
  | symm text text' _ ih => exact ih.symm
  | trans text text' text'' _ _ ih ih' => exact ih.trans ih'

/-- Files whose texts differ by changes of the form, made or undone in any number, hold the
    same settings. -/
theorem load_of_reformatted {t t' : FileTree} {path path' : String}
    (htext : t.readText path = .ok text) (htext' : t'.readText path' = .ok text')
    (h : Relation.EqvGen Reformats text text') :
    ∃ s, load t path = .ok s ∧ load t' path' = .ok s := by
  refine ⟨ofText text, load_of_readText htext, ?_⟩
  rw [load_of_readText htext', ofText_eq_of_reformatted h]

/-- A comment between a flag and its value, blanks around the value, and other line ends. -/
theorem load_of_reformatted_library :
    Relation.EqvGen Reformats "--library\nlib\n" "--library\r\n # note\r\n\tlib \r\n" ∧
    ∃ s, load (.single "--library\nlib\n") "f" = .ok s ∧
      load (.single "--library\r\n # note\r\n\tlib \r\n") "f" = .ok s := by
  have hcomment : Reformats "--library\nlib\n" "--library\n # note\nlib\n" :=
    @Reformats.insert "--library\n" "lib\n" " # note" (.inr ⟨"--library", rfl⟩) (by decide)
      (.inr ⟨[' '], " note".toList, rfl, List.forall_mem_singleton.2 (by decide)⟩)
  have hstart : Reformats "--library\n # note\nlib\n" "--library\n # note\n\tlib\n" :=
    @Reformats.padStart "--library\n # note\n" "lib\n" "\t" (.inr ⟨"--library\n # note", rfl⟩)
      (by decide)
  have hend : Reformats "--library\n # note\n\tlib\n" "--library\n # note\n\tlib \n" :=
    @Reformats.padEnd "--library\n # note\n\tlib" "\n" " " (.inr (.inl ⟨"", rfl⟩)) (by decide)
  have hreturns := Reformats.returns "--library\n # note\n\tlib \n"
  have h : Relation.EqvGen Reformats "--library\nlib\n"
      "--library\r\n # note\r\n\tlib \r\n" :=
    (((Relation.EqvGen.rel _ _ hcomment).trans _ _ _ (.rel _ _ hstart)).trans _ _ _
      (.rel _ _ hend)).trans _ _ _ (.rel _ _ hreturns)
  exact ⟨h, load_of_reformatted (FileTree.readText_single _) (FileTree.readText_single _) h⟩

end Lifelines.Settings
