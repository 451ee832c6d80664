import Lifelines.Statement

/-!
# Quoted text read back

A backslash before a double quote is put there when a label is written, or it
is the last character of the label and the quote ends it. Read from the front,
the two cannot be told apart, so a label is had back that way unless it ends in a
backslash. Read from the end they can: after the quote that
ends a label, the first one without a backslash before it is the one that
starts the label, since what stands before a label is never a backslash.

* `Text.escapeBack`, `Text.quotedBack`: a label, and labels with spaces between
  them, as they stand when they are read from the end;
* `Text.readBack`: a label read from the end;
* `Text.quotedBack_inj`: there is one way to read labels from the end;
* `Text.readLabel`: a label read from the front;
* `Text.readLabel_quote_eq_iff`: the labels that are had back from the front.
-/

namespace Lifelines.Text

variable {r r' : List Char} {c c' : Char}

/-- What stands before the first occurrence of a character is unique. -/
theorem append_cons_inj {a a' : List Char} (h : c ∉ a) (h' : c ∉ a')
    (heq : a ++ c :: r = a' ++ c :: r') : a = a' ∧ r = r' := by
  have hsplit := congrArg (List.splitOn c) heq
  rw [List.splitOn_append_cons_self_of_not_mem h,
    List.splitOn_append_cons_self_of_not_mem h'] at hsplit
  obtain rfl := (List.cons.inj hsplit).1
  exact ⟨rfl, (List.cons.inj (List.append_cancel_left heq)).2⟩

/-! ### One label -/

/-- What is read from the end where a label is written between quotes. -/
def escapeBack : List Char → List Char
  | [] => []
  | c :: cs => if c = '"' then '"' :: '\\' :: escapeBack cs else c :: escapeBack cs

/-- Characters are escaped one by one, also from the end. -/
theorem escapeBack_append (cs ds : List Char) :
    escapeBack (cs ++ ds) = escapeBack cs ++ escapeBack ds := by
  induction cs with
  | nil => rfl
  | cons c cs ih => by_cases hc : c = '"' <;> simp [escapeBack, hc, ih]

/-- Escaping and reading from the end go together. -/
theorem reverse_escapeChars (cs : List Char) :
    (escapeChars cs).reverse = escapeBack cs.reverse := by
  induction cs with
  | nil => rfl
  | cons c cs ih =>
    rw [List.reverse_cons, escapeBack_append, ← ih]
    by_cases hc : c = '"'
    · subst hc
      simp [escapeChars, escapeBack]
    · simp [escapeChars, escapeBack, hc]

/-- Reads a label from the end, up to the first quote without a backslash before it;
    what is read next comes after it. -/
def readBack : List Char → List Char × List Char
  | [] => ([], [])
  | '"' :: '\\' :: cs => ('"' :: (readBack cs).1, (readBack cs).2)
  | '"' :: cs => ([], cs)
  | c :: cs => (c :: (readBack cs).1, (readBack cs).2)

/-- Reading from the end, a label is over at a quote that is not escaped. -/
theorem readBack_quote (hc : c ≠ '\\') : readBack ('"' :: c :: r) = ([], c :: r) := by
  rw [readBack]
  rintro cs ⟨⟩
  exact hc rfl

/-- Reading from the end, any other character belongs to the label. -/
theorem readBack_cons (hc : c ≠ '"') :
    readBack (c :: r) = (c :: (readBack r).1, (readBack r).2) := by
  rw [readBack]
  · rintro cs rfl
    exact absurd rfl hc
  · exact hc

/-- A label is read up to the quote before it, where no backslash comes next. -/
theorem readBack_escapeBack (hc : c ≠ '\\') (cs : List Char) :
    readBack (escapeBack cs ++ '"' :: c :: r) = (cs, c :: r) := by
  induction cs with
  | nil => exact readBack_quote hc
  | cons x cs ih =>
    by_cases hx : x = '"'
    · subst hx
      simp [escapeBack, readBack, ih]
    · simp [escapeBack, hx, readBack_cons hx, ih]

/-- Two labels that are escaped alike and then followed by a quote are the same, and so is what
    comes after them. -/
theorem escapeBack_inj {cs cs' : List Char} (hc : c ≠ '\\') (hc' : c' ≠ '\\')
    (h : escapeBack cs ++ '"' :: c :: r = escapeBack cs' ++ '"' :: c' :: r') :
    cs = cs' ∧ c :: r = c' :: r' := by
  have hread := congrArg readBack h
  rw [readBack_escapeBack hc, readBack_escapeBack hc'] at hread
  exact Prod.mk.inj hread

/-! ### Several labels -/

/-- What is read from the end where labels are written with spaces between them; the
    last label comes first. -/
def quotedBack : List String → List Char
  | [] => []
  | [l] => '"' :: escapeBack l.toList.reverse ++ ['"']
  | l :: ls => '"' :: escapeBack l.toList.reverse ++ '"' :: ' ' :: quotedBack ls

theorem reverse_quote (l : String) :
    (quote l).toList.reverse = '"' :: escapeBack l.toList.reverse ++ ['"'] := by
  simp [quote, escape, reverse_escapeChars]

/-- The label before an opening quote is had back, and so is what stands before it. -/
theorem label_inj {l l' : String} (hc : c ≠ '\\') (hc' : c' ≠ '\\')
    (h : escapeBack l.toList.reverse ++ '"' :: c :: r =
      escapeBack l'.toList.reverse ++ '"' :: c' :: r') : l = l' ∧ c :: r = c' :: r' := by
  obtain ⟨hl, hr⟩ := escapeBack_inj hc hc' h
  exact ⟨String.toList_inj.1 (List.reverse_inj.1 hl), hr⟩

/-- The last of several labels comes first when they are read from the end. -/
theorem quotedBack_cons_of_ne_nil {ls : List String} (h : ls ≠ []) (l : String) :
    quotedBack (l :: ls) = '"' :: escapeBack l.toList.reverse ++ '"' :: ' ' :: quotedBack ls := by
  cases ls with
  | nil => exact absurd rfl h
  | cons => rfl

/-- Labels in a row, read from their end. -/
theorem reverse_intercalate_quote (ls : List String) :
    (" ".intercalate (ls.reverse.map quote)).toList.reverse = quotedBack ls := by
  induction ls with
  | nil => rfl
  | cons l ls ih =>
    rw [List.reverse_cons, List.map_append]
    by_cases h : ls = []
    · subst h
      simp only [List.reverse_nil, List.map_nil, List.map_cons, List.nil_append,
        String.intercalate_singleton]
      exact reverse_quote l
    · rw [String.intercalate_append_of_ne_nil (by simpa using h) (by simp),
        quotedBack_cons_of_ne_nil h, ← ih]
      simp [reverse_quote, -String.toList_intercalate]

/-- What is read before the labels that are left: a space, unless there are none. -/
theorem quotedBack_cons_append (l : String) (ls : List String) (c : Char) (r : List Char) :
    quotedBack (l :: ls) ++ c :: r = '"' :: (escapeBack l.toList.reverse ++
      '"' :: if ls = [] then c :: r else ' ' :: (quotedBack ls ++ c :: r)) := by
  by_cases h : ls = []
  · simp [h, quotedBack]
  · simp [h, quotedBack_cons_of_ne_nil h]

/-- Labels read from the end stop where a label starts without a space before it. -/
theorem quotedBack_inj {ls ls' : List String} (hc : c ∉ ['\\', '"', ' '])
    (hc' : c' ∉ ['\\', '"', ' ']) (h : quotedBack ls ++ c :: r = quotedBack ls' ++ c' :: r') :
    ls = ls' ∧ c :: r = c' :: r' := by
  simp only [List.mem_cons, List.not_mem_nil, or_false, not_or] at hc hc'
  induction ls generalizing ls' with
  | nil =>
    cases ls' with
    | nil => exact ⟨rfl, h⟩
    | cons l' ls' =>
      -- a label ends in a quote, which does not come next where there is none
      rw [quotedBack_cons_append] at h
      exact absurd (List.cons.inj h).1 hc.2.1
  | cons l ls ih =>
    cases ls' with
    | nil =>
      rw [quotedBack_cons_append] at h
      exact absurd (List.cons.inj h).1.symm hc'.2.1
    | cons l' ls' =>
      rw [quotedBack_cons_append, quotedBack_cons_append] at h
      have htail := (List.cons.inj h).2
      by_cases hls : ls = [] <;> by_cases hls' : ls' = [] <;> simp only [hls, hls', if_true,
        if_false] at htail
      · obtain ⟨rfl, hr⟩ := label_inj hc.1 hc'.1 htail
        exact ⟨by rw [hls, hls'], hr⟩
      · -- one stops where the other goes on with a space
        obtain ⟨_, hr⟩ := label_inj hc.1 (by decide) htail
        exact absurd (List.cons.inj hr).1 hc.2.2
      · obtain ⟨_, hr⟩ := label_inj (by decide) hc'.1 htail
        exact absurd (List.cons.inj hr).1.symm hc'.2.2
      · obtain ⟨rfl, hr⟩ := label_inj (by decide) (by decide) htail
        obtain ⟨rfl, hrest⟩ := ih (List.cons.inj hr).2
        exact ⟨rfl, hrest⟩

/-! ### Read from the front -/

section

variable {cs rest : List Char}

/-- Reads a label from the front, up to the first quote without a backslash right before
    it; a quote with one is a quote of the label, and every other character is one as it is.
    What is left starts with the quote that ends the label. -/
def readLabel : List Char → List Char × List Char
  | [] => ([], [])
  | '\\' :: '"' :: cs => ('"' :: (readLabel cs).1, (readLabel cs).2)
  | '"' :: cs => ([], '"' :: cs)
  | c :: cs => (c :: (readLabel cs).1, (readLabel cs).2)

/-- Only a quote, or a backslash before one, is not taken as it is. -/
theorem readLabel_cons (hquote : c ≠ '"') (hnext : c = '\\' → cs.head? ≠ some '"') :
    readLabel (c :: cs) = (c :: (readLabel cs).1, (readLabel cs).2) := by
  rw [readLabel]
  · rintro ds rfl rfl
    exact hnext rfl rfl
  · exact hquote

/-- Characters are escaped one by one. -/
theorem escapeChars_append (cs ds : List Char) :
    escapeChars (cs ++ ds) = escapeChars cs ++ escapeChars ds := by
  induction cs with
  | nil => rfl
  | cons c cs ih => by_cases hc : c = '"' <;> simp [escapeChars, hc, ih]

/-- What is written of a character does not start with a quote. -/
theorem head?_escapeChars_cons_ne (c : Char) (cs rest : List Char) :
    (escapeChars (c :: cs) ++ rest).head? ≠ some '"' := by
  by_cases hc : c = '"' <;> simp [escapeChars, hc]

/-- A label is read as it is and what comes after it is read on, unless the two meet in a
    backslash and a quote. -/
theorem readLabel_escapeChars_append (hend : cs.getLast? = some '\\' → rest.head? ≠ some '"') :
    readLabel (escapeChars cs ++ rest) = (cs ++ (readLabel rest).1, (readLabel rest).2) := by
  induction cs with
  | nil => rfl
  | cons c cs ih =>
    have hend' : cs.getLast? = some '\\' → rest.head? ≠ some '"' := fun h =>
      hend (by simp [List.getLast?_cons, h])
    by_cases hc : c = '"'
    · subst hc
      simp [escapeChars, readLabel, ih hend']
    · -- a backslash within the label comes before another character or what escapes it
      have hnext : c = '\\' → (escapeChars cs ++ rest).head? ≠ some '"' := by
        rintro rfl
        cases cs with
        | nil => exact hend rfl
        | cons d ds => exact head?_escapeChars_cons_ne d ds rest
      simp [escapeChars, readLabel_cons hc hnext, ih hend']

/-- After a backslash at the end of a label, the quote that ends the label is read as one of
    its own, and what follows the label as if it went on. -/
theorem readLabel_escapeChars_concat (cs rest : List Char) :
    readLabel (escapeChars (cs ++ ['\\']) ++ '"' :: rest) =
      (cs ++ '"' :: (readLabel rest).1, (readLabel rest).2) := by
  have hwritten : escapeChars (cs ++ ['\\']) ++ '"' :: rest =
      escapeChars cs ++ '\\' :: '"' :: rest := by
    rw [escapeChars_append, List.append_assoc]
    rfl
  rw [hwritten, readLabel_escapeChars_append (by simp)]
  rfl

end

/-- Read from after the quote that starts it, a label is had back and the reading stops at the
    quote that ends it, whatever follows, just in case it does not end in a backslash. -/
theorem readLabel_quote_eq_iff (label following : String) :
    readLabel (quote label ++ following).toList.tail = (label.toList, '"' :: following.toList) ↔
      label.toList.getLast? ≠ some '\\' := by
  have hwritten : (quote label ++ following).toList.tail =
      escapeChars label.toList ++ '"' :: following.toList := by
    simp [quote, escape]
  rw [hwritten]
  constructor
  · intro hread hlast
    obtain ⟨cs, hcs⟩ := List.getLast?_eq_some_iff.1 hlast
    rw [hcs, readLabel_escapeChars_concat] at hread
    -- where the label has its backslash, a quote has been read
    have hlabel := List.append_cancel_left (congrArg Prod.fst hread)
    exact absurd (List.cons.inj hlabel).1 (by decide)
  · intro hlast
    rw [readLabel_escapeChars_append fun h => absurd h hlast]
    simp [readLabel]

example : readLabel (quote "c:\\" ++ ");").toList.tail = ("c:\");".toList, []) := by decide

end Lifelines.Text
