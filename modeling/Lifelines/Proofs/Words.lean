import Lifelines.Text.Blank
import Lifelines.Text.Lines
import Mathlib.Data.List.DropRight

/-!
# Words and lines read back

Lines that are written one after the other, each with a newline at its end, are read
back as they are, and so are words with blanks between them. What is read as a word
has no blank in it, whatever the text is.

* `Text.Unbroken`: texts without a blank;
* `Text.lines_unlines`: lines are read back;
* `Text.linewise`: induction on the lines of a text;
* `Text.words_append_blank`: the word before a blank is read back;
* `Text.unbroken_of_mem_words`: what is read as a word is one.
-/

namespace Lifelines.Text

/-- No character of the text is blank. -/
def Unbroken (s : String) : Prop :=
  ∀ c ∈ s.toList, isBlank c = false

/-- No character of the text ends a line. -/
def IsInline (s : String) : Prop :=
  ∀ c ∈ s.toList, c ≠ '\n' ∧ c ≠ '\r'

theorem unbroken_of_all {s : String} (h : (s.toList.all fun c => !isBlank c) = true) :
    Unbroken s :=
  fun c hc => by simpa using List.all_eq_true.1 h c hc

theorem isInline_of_all {s : String}
    (h : (s.toList.all fun c => c != '\n' && c != '\r') = true) : IsInline s :=
  fun c hc => by simpa using List.all_eq_true.1 h c hc

theorem Unbroken.isInline {s : String} (h : Unbroken s) : IsInline s := by
  intro c hc
  constructor <;> rintro rfl <;> exact absurd (h _ hc) (by decide)

/-- Two pieces of a line make a piece of a line. -/
theorem IsInline.append {s t : String} (hs : IsInline s) (ht : IsInline t) :
    IsInline (s ++ t) := by
  intro c hc
  rw [String.toList_append, List.mem_append] at hc
  exact hc.elim (hs c) (ht c)

/-! ### Lines -/

/-- A character that ends no line joins the first of the lines after it. -/
theorem linesOf_cons {c : Char} {rest : List Char}
    (hr : ∀ rest', c = '\r' → rest = '\n' :: rest' → False) (hn : c = '\n' → False) :
    linesOf (c :: rest) =
      match linesOf rest with
      | [] => [[c]]
      | line :: lines => (c :: line) :: lines :=
  linesOf.eq_4 c rest hr hn

/-- What stands before the first line end is the first line. -/
theorem linesOf_append_newline {l : List Char} (h : ∀ c ∈ l, c ≠ '\n' ∧ c ≠ '\r')
    (rest : List Char) : linesOf (l ++ '\n' :: rest) = l :: linesOf rest := by
  induction l with
  | nil => rfl
  | cons c l ih =>
    obtain ⟨⟨hn, hr⟩, hl⟩ := List.forall_mem_cons.1 h
    rw [List.cons_append, linesOf_cons (fun _ hc _ => hr hc) hn, ih hl]

/-- Lines joined by newlines, and ended by one, are read back as these lines. -/
theorem lines_unlines {ls : List String} (hne : ls ≠ []) (h : ∀ l ∈ ls, IsInline l) :
    lines ("\n".intercalate ls ++ "\n") = ls := by
  suffices hchars : linesOf ("\n".intercalate ls ++ "\n").toList = ls.map String.toList by
    rw [lines, hchars, List.map_map]
    exact (List.map_congr_left fun _ _ => String.ofList_toList).trans (List.map_id' ls)
  induction ls with
  | nil => exact absurd rfl hne
  | cons l ls ih =>
    obtain ⟨hl, hls⟩ := List.forall_mem_cons.1 h
    by_cases hls' : ls = []
    · simpa [hls', linesOf] using linesOf_append_newline hl []
    · rw [String.intercalate_cons_of_ne_nil hls', String.append_assoc, String.append_assoc,
        String.toList_append, String.toList_append, show "\n".toList = ['\n'] from rfl,
        List.singleton_append, linesOf_append_newline hl, ih hls' hls, List.map_cons]

/-- Without a newline, a text that is not empty is one line. -/
theorem linesOf_of_not_mem {l : List Char} (hl : '\n' ∉ l) :
    linesOf l = if l = [] then [] else [l] := by
  induction l with
  | nil => rfl
  | cons c l ih =>
    have hc : '\n' ≠ c := List.ne_of_not_mem_cons hl
    have hrest : '\n' ∉ l := List.not_mem_of_not_mem_cons hl
    have hreturn : ∀ rest, c = '\r' → l = '\n' :: rest → False := by
      rintro rest - rfl
      exact hrest List.mem_cons_self
    rw [linesOf_cons hreturn (Ne.symm hc), ih hrest]
    cases l <;> rfl

/-- Up to the first newline there is a line, perhaps with a carriage return at its end. -/
theorem exists_linesOf_append_newline {l : List Char} (hl : '\n' ∉ l) (rest : List Char) :
    ∃ line, linesOf (l ++ '\n' :: rest) = line :: linesOf rest ∧
      (l = line ∨ l = line ++ ['\r']) := by
  induction l with
  | nil => exact ⟨[], rfl, .inl rfl⟩
  | cons c l ih =>
    have hc : '\n' ≠ c := List.ne_of_not_mem_cons hl
    have hrest : '\n' ∉ l := List.not_mem_of_not_mem_cons hl
    -- a carriage return is part of the line unless the newline is right after it
    by_cases hend : c = '\r' ∧ l = []
    · obtain ⟨rfl, rfl⟩ := hend
      exact ⟨[], rfl, .inr rfl⟩
    · obtain ⟨line, hlines, hline⟩ := ih hrest
      have hreturn : ∀ rest', c = '\r' → l ++ '\n' :: rest = '\n' :: rest' → False := by
        intro rest' hcr heq
        cases l with
        | nil => exact hend ⟨hcr, rfl⟩
        | cons d l => exact hrest (List.mem_cons.2 (.inl (List.cons.inj heq).1.symm))
      refine ⟨c :: line, ?_, ?_⟩
      · rw [List.cons_append, linesOf_cons hreturn (Ne.symm hc), hlines]
      · rcases hline with rfl | rfl
        · exact .inl rfl
        · exact .inr rfl

/-- What holds of a text without a newline, and goes on to hold if a line is put in front,
    holds of every text. -/
theorem linewise {motive : List Char → Prop} (last : ∀ l, '\n' ∉ l → motive l)
    (line : ∀ l rest, '\n' ∉ l → motive rest → motive (l ++ '\n' :: rest)) (cs : List Char) :
    motive cs := by
  by_cases h : '\n' ∈ cs
  · obtain ⟨l, rest, hcs, hl⟩ := List.eq_append_cons_of_mem h
    have hlt : rest.length < cs.length := by
      rw [hcs, List.length_append, List.length_cons]
      omega
    rw [hcs]
    exact line l rest hl (linewise last line rest)
  · exact last cs h
termination_by cs.length

/-- No line has a newline in it, on lists of characters. -/
theorem newline_not_mem_linesOf {cs l : List Char} (h : l ∈ linesOf cs) : '\n' ∉ l := by
  induction cs using linesOf.induct generalizing l with
  | case1 => exact absurd h List.not_mem_nil
  -- a line end at the front is that of an empty line
  | case2 rest ih | case3 rest ih =>
    rcases List.mem_cons.1 h with rfl | h
    · exact List.not_mem_nil
    · exact ih h
  | case4 c rest hr hc hrest _ =>
    rw [linesOf_cons hr hc, hrest] at h
    rw [List.mem_singleton.1 h, List.mem_singleton]
    exact fun heq => hc heq.symm
  | case5 c rest hr hc line lines hrest ih =>
    rw [linesOf_cons hr hc, hrest] at h
    rcases List.mem_cons.1 h with rfl | h
    · have hline : '\n' ∉ line := ih (hrest ▸ List.mem_cons_self)
      exact fun hmem => (List.mem_cons.1 hmem).elim (fun heq => hc heq.symm) hline
    · exact ih (hrest ▸ List.mem_cons_of_mem _ h)

/-- No line of a text has a newline in it. -/
theorem newline_not_mem_lines {text l : String} (h : l ∈ lines text) : '\n' ∉ l.toList := by
  obtain ⟨cs, hcs, rfl⟩ := List.mem_map.1 h
  rw [String.toList_ofList]
  exact newline_not_mem_linesOf hcs

/-- The lines of a text, and a blank one if it has none. -/
def linesOrBlank (text : String) : List String :=
  match lines text with
  | [] => [""]
  | ls => ls

/-- A text has at least one line when the empty text counts as a blank line. -/
theorem linesOrBlank_ne_nil (text : String) : linesOrBlank text ≠ [] := by
  unfold linesOrBlank
  split
  · simp
  · assumption

/-- No line has a newline in it, the blank line of an empty text included. -/
theorem newline_not_mem_linesOrBlank {text l : String} (h : l ∈ linesOrBlank text) :
    '\n' ∉ l.toList := by
  unfold linesOrBlank at h
  split at h
  · simp [List.mem_singleton.1 h]
  · exact newline_not_mem_lines h

/-! ### Words -/

section

variable {b c d : Char} {w cs rest : List Char}

/-- A blank in front starts no word. -/
theorem wordsOf_cons_blank (hb : isBlank b = true) (cs : List Char) :
    wordsOf (b :: cs) = wordsOf cs := by
  rw [wordsOf.eq_def]
  simp [hb]

/-- A character followed by a blank is a word of its own. -/
theorem wordsOf_cons_cons_blank (hc : isBlank c = false) (hb : isBlank b = true) :
    wordsOf (c :: b :: rest) = [c] :: wordsOf rest := by
  rw [wordsOf.eq_def]
  simp [hc, hb, wordsOf_cons_blank hb]

/-- A character joins the word that starts right after it. -/
theorem wordsOf_cons_cons (hc : isBlank c = false) (hd : isBlank d = false)
    {ws : List (List Char)} (h : wordsOf (d :: rest) = w :: ws) :
    wordsOf (c :: d :: rest) = (c :: w) :: ws := by
  rw [wordsOf.eq_def]
  simp [hc, hd, h]

/-- What stands before the first blank is the first word. -/
theorem wordsOf_append_blank (hne : w ≠ []) (hw : ∀ c ∈ w, isBlank c = false)
    (hb : isBlank b = true) : wordsOf (w ++ b :: rest) = w :: wordsOf rest := by
  induction w with
  | nil => exact absurd rfl hne
  | cons c w ih =>
    obtain ⟨hc, hw⟩ := List.forall_mem_cons.1 hw
    cases w with
    | nil => exact wordsOf_cons_cons_blank hc hb
    | cons d w => exact wordsOf_cons_cons hc (hw d List.mem_cons_self) (ih (by simp) hw)

/-- Characters without a blank among them are one word. -/
theorem wordsOf_eq_singleton (hne : w ≠ []) (hw : ∀ c ∈ w, isBlank c = false) :
    wordsOf w = [w] := by
  induction w with
  | nil => exact absurd rfl hne
  | cons c w ih =>
    obtain ⟨hc, hw⟩ := List.forall_mem_cons.1 hw
    cases w with
    | nil => simp [wordsOf, hc]
    | cons d w => exact wordsOf_cons_cons hc (hw d List.mem_cons_self) (ih (by simp) hw)

/-- A word is not empty and has no blank in it, on lists of characters. -/
theorem of_mem_wordsOf (h : w ∈ wordsOf cs) : w ≠ [] ∧ ∀ c ∈ w, isBlank c = false := by
  induction cs using wordsOf.induct generalizing w with
  | case1 => exact absurd h List.not_mem_nil
  | case2 d cs hd ih => exact ih (wordsOf_cons_blank hd cs ▸ h)
  | case3 d hd =>
    rw [wordsOf_eq_singleton (by simp) (by simpa using hd), List.mem_singleton] at h
    simpa [h] using hd
  | case4 d hd b cs hb ih =>
    rw [wordsOf_cons_cons_blank (by simpa using hd) hb, ← wordsOf_cons_blank hb] at h
    rcases List.mem_cons.1 h with rfl | h
    · simpa using hd
    · exact ih h
  | case5 d hd c cs hc hnone ih =>
    rw [wordsOf.eq_def] at h
    obtain rfl : w = [d] := by simpa [hd, hc, hnone] using h
    simpa using hd
  | case6 d hd c cs hc w' ws hws ih =>
    rw [wordsOf_cons_cons (by simpa using hd) (by simpa using hc) hws] at h
    rw [hws] at ih
    rcases List.mem_cons.1 h with rfl | h
    · exact ⟨by simp, List.forall_mem_cons.2 ⟨by simpa using hd, (ih List.mem_cons_self).2⟩⟩
    · exact ih (List.mem_cons_of_mem _ h)

/-- Blanks in front change no word. -/
theorem wordsOf_blanks_append {bs : List Char} (hbs : ∀ b ∈ bs, isBlank b = true)
    (cs : List Char) : wordsOf (bs ++ cs) = wordsOf cs := by
  induction bs with
  | nil => rfl
  | cons b bs ih =>
    obtain ⟨hb, hbs⟩ := List.forall_mem_cons.1 hbs
    rw [List.cons_append, wordsOf_cons_blank hb, ih hbs]

/-- A text that starts with a character that is not blank has a word. -/
theorem wordsOf_ne_nil (hc : isBlank c = false) (cs : List Char) : wordsOf (c :: cs) ≠ [] := by
  cases cs with
  | nil => simp [wordsOf, hc]
  | cons d cs =>
    rw [wordsOf.eq_def]
    simp only [hc, Bool.false_eq_true, if_false]
    split_ifs
    · simp
    · split <;> simp

/-- A blank separates the words before it from those after it. -/
theorem wordsOf_append_cons_blank (hb : isBlank b = true) (cs rest : List Char) :
    wordsOf (cs ++ b :: rest) = wordsOf cs ++ wordsOf rest := by
  induction cs using wordsOf.induct with
  | case1 => exact wordsOf_cons_blank hb rest
  | case2 d cs hd ih => rw [List.cons_append, wordsOf_cons_blank hd, wordsOf_cons_blank hd, ih]
  | case3 d hd =>
    have hd' : ∀ c ∈ [d], isBlank c = false := by simpa using hd
    rw [wordsOf_eq_singleton (by simp) hd']
    exact wordsOf_cons_cons_blank (by simpa using hd) hb
  | case4 d hd b' cs hb' ih =>
    rw [List.cons_append, wordsOf_cons_blank hb', wordsOf_cons_blank hb'] at ih
    rw [List.cons_append, List.cons_append, wordsOf_cons_cons_blank (by simpa using hd) hb',
      wordsOf_cons_cons_blank (by simpa using hd) hb', ih, List.cons_append]
  | case5 d hd c cs hc hnone ih => exact absurd hnone (wordsOf_ne_nil (by simpa using hc) cs)
  | case6 d hd c cs hc w ws hws ih =>
    rw [hws] at ih
    rw [wordsOf_cons_cons (by simpa using hd) (by simpa using hc) hws]
    exact wordsOf_cons_cons (by simpa using hd) (by simpa using hc) ih

/-- Blanks at the end change no word. -/
theorem wordsOf_append_blanks {bs : List Char} (hbs : ∀ b ∈ bs, isBlank b = true)
    (cs : List Char) : wordsOf (cs ++ bs) = wordsOf cs := by
  cases bs with
  | nil => rw [List.append_nil]
  | cons b bs =>
    obtain ⟨hb, hbs⟩ := List.forall_mem_cons.1 hbs
    have hnone := wordsOf_blanks_append hbs []
    rw [List.append_nil] at hnone
    rw [wordsOf_append_cons_blank hb, hnone]
    exact List.append_nil _

end

/-! ### Words of a text -/

/-- A word of a text is not empty and has no blank in it. -/
theorem unbroken_of_mem_words {s w : String} (h : w ∈ words s) : w ≠ "" ∧ Unbroken w := by
  obtain ⟨cs, hcs, rfl⟩ := List.mem_map.1 h
  obtain ⟨hne, hblank⟩ := of_mem_wordsOf hcs
  refine ⟨fun heq => hne ?_, by rwa [Unbroken, String.toList_ofList]⟩
  rw [← String.toList_ofList (l := cs), heq, String.toList_empty]

/-- A word followed by a blank is the first word. -/
theorem words_append_blank {s t : String} (hne : s ≠ "") (hs : Unbroken s) :
    words (s ++ " " ++ t) = s :: words t := by
  have hne' : s.toList ≠ [] := by simpa using hne
  rw [words, String.toList_append, String.toList_append, List.append_assoc,
    show " ".toList = [' '] from rfl, List.singleton_append,
    wordsOf_append_blank hne' hs (by decide), List.map_cons, String.ofList_toList, words]

theorem words_eq_singleton {s : String} (hne : s ≠ "") (hs : Unbroken s) : words s = [s] := by
  have hne' : s.toList ≠ [] := by simpa using hne
  rw [words, wordsOf_eq_singleton hne' hs, List.map_singleton, String.ofList_toList]

/-- Blanks are trimmed from the end only if the text does not start with one. -/
theorem trimChars_cons {c : Char} (hc : isBlank c = false) (cs : List Char) :
    trimChars (c :: cs) = (c :: cs).rdropWhile isBlank := by
  rw [trimChars, List.dropWhile_cons_of_neg (by simp [hc])]
  rfl

/-- What is trimmed starts where blanks end, and it has the same words. -/
theorem exists_trimChars {l : List Char} {c : Char} {rest : List Char}
    (h : l.dropWhile isBlank = c :: rest) :
    ∃ cs, trimChars l = c :: cs ∧ wordsOf (c :: cs) = wordsOf (c :: rest) := by
  have hc : isBlank c = false := by
    have hhead := List.head?_dropWhile_not isBlank l
    simpa [h] using hhead
  have hsplit : trimChars l ++ (c :: rest).rtakeWhile isBlank = c :: rest := by
    rw [trimChars, h, List.rtakeWhile, ← List.reverse_append, List.takeWhile_append_dropWhile,
      List.reverse_reverse]
  have hend : ∀ b ∈ (c :: rest).rtakeWhile isBlank, isBlank b = true := fun _ =>
    List.mem_rtakeWhile_imp
  -- what is cut off at the end is blank, and `c` is not
  cases htrim : trimChars l with
  | nil =>
    rw [htrim, List.nil_append] at hsplit
    rw [hsplit] at hend
    simp [hend c List.mem_cons_self] at hc
  | cons c' cs =>
    rw [htrim] at hsplit
    obtain rfl : c' = c := (List.cons.inj hsplit).1
    exact ⟨cs, rfl, by rw [← hsplit, wordsOf_append_blanks hend]⟩

/-- Nothing is trimmed off the end of a text that ends in a word. -/
theorem rdropWhile_isBlank_eq_self {cs : List Char} (h : ∀ c ∈ cs, isBlank c = false)
    (ds : List Char) (hcs : cs ≠ []) : (ds ++ cs).rdropWhile isBlank = ds ++ cs := by
  rw [List.rdropWhile_eq_self_iff]
  intro hne
  simp [List.getLast_append_of_ne_nil hne hcs, h _ (List.getLast_mem hcs)]

/-- A blank that nothing follows is trimmed. -/
theorem trim_pair {s t : String} (hne : s ≠ "") (hs : Unbroken s) (ht : Unbroken t) :
    trim (s ++ " " ++ t) = if t = "" then s else s ++ " " ++ t := by
  have hne' : s.toList ≠ [] := by simpa using hne
  obtain ⟨c, cs, hcs⟩ := List.exists_cons_of_ne_nil hne'
  have hc : isBlank c = false := hs c (hcs ▸ List.mem_cons_self)
  have htrim : trimChars (s ++ " " ++ t).toList =
      (s.toList ++ ' ' :: t.toList).rdropWhile isBlank := by
    rw [String.toList_append, String.toList_append, List.append_assoc, hcs]
    exact trimChars_cons hc _
  rw [trim, htrim]
  split
  · next h =>
    subst h
    rw [String.toList_empty, List.rdropWhile_concat_pos _ _ _ (by decide)]
    have hself := rdropWhile_isBlank_eq_self hs [] hne'
    rw [List.nil_append] at hself
    rw [hself, String.ofList_toList]
  · next h =>
    have ht' : t.toList ≠ [] := by simpa using h
    have hself := rdropWhile_isBlank_eq_self ht (s.toList ++ [' ']) ht'
    rw [List.append_assoc, List.singleton_append] at hself
    rw [hself]
    refine String.toList_inj.1 ?_
    simp

/-- The words of two texts with a blank between them, the second of which may be missing. -/
theorem words_trim_pair {s t : String} (hne : s ≠ "") (hs : Unbroken s) (ht : Unbroken t) :
    words (trim (s ++ " " ++ t)) = s :: if t = "" then [] else [t] := by
  rw [trim_pair hne hs ht]
  split
  · exact words_eq_singleton hne hs
  · next h => rw [words_append_blank hne hs, words_eq_singleton h ht]

end Lifelines.Text
