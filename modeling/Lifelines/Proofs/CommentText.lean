import Lifelines.Proofs.PicLines
import Lifelines.Proofs.Style

/-!
# The text of a comment

A comment shows its text line by line, each line between quotes of its own. Nothing
of the text is lost by that but how its lines are ended: put together with newlines
between them, the lines are the text with a bare newline in the place of each carriage
return and newline, and without the newline that ends the last line, if there is one.

* `Text.unifyNewlines`, `Text.dropFinalNewline`: what is forgotten of a text;
* `Text.intercalate_linesOf`: the lines of a text put together;
* `Comment.WrittenAs`: a statement that shows the text of a comment without loss;
* `Op.run_comment_writtenAs`: a comment is written as such a statement.
-/

namespace Lifelines

/-! ### Lines put together -/

namespace Text

/-- A text with a newline in the place of each carriage return and newline. -/
def unifyNewlines : List Char → List Char
  | [] => []
  | '\r' :: '\n' :: rest => '\n' :: unifyNewlines rest
  | c :: rest => c :: unifyNewlines rest

/-- A text without its last character if that is a newline. -/
def dropFinalNewline (cs : List Char) : List Char :=
  if cs.getLast? = some '\n' then cs.dropLast else cs

/-- Only a carriage return before a newline is left out. -/
theorem unifyNewlines_cons {c : Char} {rest : List Char}
    (hreturn : ∀ rest', c = '\r' → rest = '\n' :: rest' → False) :
    unifyNewlines (c :: rest) = c :: unifyNewlines rest :=
  unifyNewlines.eq_3 c rest hreturn

theorem unifyNewlines_ne_nil {cs : List Char} (hcs : cs ≠ []) : unifyNewlines cs ≠ [] := by
  fun_cases unifyNewlines cs <;> simp_all

/-- Nothing but the last character is looked at. -/
theorem dropFinalNewline_cons {cs : List Char} (hcs : cs ≠ []) (c : Char) :
    dropFinalNewline (c :: cs) = c :: dropFinalNewline cs := by
  rw [dropFinalNewline, dropFinalNewline, List.getLast?_cons_of_ne_nil hcs,
    List.dropLast_cons_of_ne_nil hcs]
  split <;> rfl

theorem linesOf_ne_nil {cs : List Char} (hcs : cs ≠ []) : linesOf cs ≠ [] := by
  fun_cases linesOf cs <;> simp_all

/-- The lines of a text are the text, but for how they are ended. -/
theorem intercalate_linesOf (cs : List Char) :
    ['\n'].intercalate (linesOf cs) = dropFinalNewline (unifyNewlines cs) := by
  -- an empty line is ended by the newline before what follows, unless it is the last one
  have hended (rest : List Char)
      (ih : ['\n'].intercalate (linesOf rest) = dropFinalNewline (unifyNewlines rest)) :
      ['\n'].intercalate ([] :: linesOf rest) = dropFinalNewline ('\n' :: unifyNewlines rest) := by
    by_cases hrest : rest = []
    · subst hrest
      rfl
    · rw [List.intercalate_cons_of_ne_nil (linesOf_ne_nil hrest), ih,
        dropFinalNewline_cons (unifyNewlines_ne_nil hrest)]
      rfl
  induction cs using linesOf.induct with
  | case1 => rfl
  | case2 rest ih | case3 rest ih => exact hended rest ih
  | case4 c rest hr hc hrest _ =>
    obtain rfl : rest = [] := by_contra fun h => linesOf_ne_nil h hrest
    rw [linesOf_cons hr hc, hrest, unifyNewlines_cons hr, dropFinalNewline]
    simpa [unifyNewlines] using hc
  | case5 c rest hr hc line lines hrest ih =>
    have hne : unifyNewlines rest ≠ [] := unifyNewlines_ne_nil (by rintro rfl; cases hrest)
    rw [linesOf_cons hr hc, hrest, unifyNewlines_cons hr, dropFinalNewline_cons hne, ← ih, hrest]
    cases lines with
    | nil => simp
    | cons l ls => simp [List.intercalate_cons_cons]

/-- The lines put together again are the text with its newlines made alike, without the one at
    its end. -/
theorem intercalate_linesOrBlank (text : String) : ("\n".intercalate (linesOrBlank text)).toList =
    dropFinalNewline (unifyNewlines text.toList) := by
  have hlines : ("\n".intercalate (lines text)).toList =
      ['\n'].intercalate (linesOf text.toList) := by
    simp [lines, Function.comp_def]
  rw [← intercalate_linesOf, ← hlines, linesOrBlank]
  split
  · next h => simp [h]
  · rfl

example : linesOrBlank "a\r\r\n\nb\n" = ["a\r", "", "b"] := by decide

theorem IsWord.newline_not_mem {s : String} (h : IsWord s) : '\n' ∉ s.toList :=
  fun hmem => absurd (h.chars _ hmem) (by decide)

end Text

/-! ### The written form of a comment -/

/-- A leading fragment that is not empty has a space after it. -/
def Arg.leading (lead : Option String) : String :=
  if lead.getD "" = "" then "" else lead.getD "" ++ " "

/-- Lines are written after what leads them, each quoted on its own, with a space between two
    of them. -/
theorem Arg.text_lines (lead : Option String) {ls : List String} (hls : ls ≠ []) :
    (lines lead ls).text = leading lead ++ " ".intercalate (ls.map Text.quote) := by
  have hquoted : ls.map Text.quote ≠ [] := by simpa using hls
  cases lead with
  | none => simp [text, segments, leading]
  | some fragment =>
    by_cases hfragment : fragment = ""
    · simp [text, segments, leading, hfragment]
    · simp [text, segments, leading, hfragment, String.intercalate_cons_of_ne_nil hquoted]

/-- What is written of a comment before its lines. -/
def Comment.opening (c : Comment) (object name : String) : String :=
  "comment(" ++ object ++ "," ++ name ++ "," ++ c.movement.getD "" ++ "," ++ Arg.leading c.size

/-- The statement `s` is the comment `c` with some name, beside an object, and it shows the lines
    `ls` and so all of the text. -/
structure Comment.WrittenAs (c : Comment) (object name : String) (ls : List String)
    (s : Statement) : Prop where
  /-- The lines are the last argument. -/
  args_eq : s.args = [.ident object, .ident name, .raw (c.movement.getD ""), .lines c.size ls]
  /-- There is at least one line. -/
  lines_ne_nil : ls ≠ []
  newline_not_mem : ∀ l ∈ ls, '\n' ∉ l.toList
  /-- Nothing is lost but how the lines were ended. -/
  intercalate_eq : ("\n".intercalate ls).toList =
    Text.dropFinalNewline (Text.unifyNewlines c.text.toList)
  /-- Each line is quoted on its own, with a space between it and the next one. -/
  text_eq : s.text = c.opening object name ++ " ".intercalate (ls.map Text.quote) ++ ");"
  /-- The text of the comment brings no newline into the statement. -/
  newline_mem_iff : '\n' ∈ s.text.toList ↔
    '\n' ∈ (c.movement.getD "").toList ∨ '\n' ∈ (c.size.getD "").toList

namespace Comment

/-- Before the lines of a comment, a newline can only come from its movement or its size. -/
theorem newline_mem_opening_iff (c : Comment) {object name : String} (hobject : Text.IsWord object)
    (hname : Text.IsWord name) : '\n' ∈ (c.opening object name).toList ↔
      '\n' ∈ (c.movement.getD "").toList ∨ '\n' ∈ (c.size.getD "").toList := by
  have hleading : '\n' ∈ (Arg.leading c.size).toList ↔ '\n' ∈ (c.size.getD "").toList := by
    rw [Arg.leading]
    split
    · next h => simp [h]
    · simp
  simp [opening, hobject.newline_not_mem, hname.newline_not_mem, hleading]

/-- The statement of a comment is written line by line, whatever the names it refers to. -/
theorem writtenAs_comment (c : Comment) {object name : String} (hobject : Text.IsWord object)
    (hname : Text.IsWord name) : c.WrittenAs object name (Text.linesOrBlank c.text)
      (.comment object name (c.movement.getD "") c.size c.text) := by
  have hne := Text.linesOrBlank_ne_nil c.text
  have htext : (Statement.comment object name (c.movement.getD "") c.size c.text).text =
      c.opening object name ++ " ".intercalate ((Text.linesOrBlank c.text).map Text.quote) ++
        ");" := by
    simp only [Statement.text, Statement.comment, List.map_cons, List.map_nil, Arg.ofText_eq,
      Arg.text_lines c.size hne]
    simp [Arg.text, opening, String.append_assoc]
  refine ⟨?_, hne, fun l => Text.newline_not_mem_linesOrBlank, Text.intercalate_linesOrBlank c.text,
    htext, ?_⟩
  · rw [Statement.comment, Arg.ofText_eq]
  · have hlines : ¬∃ l ∈ Text.linesOrBlank c.text, '\n' ∈ l.toList := by
      rintro ⟨l, hl, hn⟩
      exact Text.newline_not_mem_linesOrBlank hl hn
    rw [htext, String.toList_append, String.toList_append, List.mem_append, List.mem_append,
      c.newline_mem_opening_iff hobject hname, Text.newline_mem_quoted_iff]
    simp [hlines]

end Comment

/-- Participants that are alive have words for names. -/
theorem Diagram.Named.isWord_of_liveLifeline {d : Diagram} (hd : d.Named) {p : Handle}
    {l : Lifeline} (hl : d.liveLifeline p = .ok l) : Text.IsWord l.name := by
  have hmem := List.mem_of_getElem? (liveLifeline_eq_ok_iff.1 hl).1
  obtain ⟨n, -, hn⟩ := hd.participants l.name (List.mem_map_of_mem hmem)
  rw [hn]
  exact NameKind.participant.isWord_name n

namespace Op

/-- A comment on a participant that is alive goes through, and it is written as one statement that
    shows all of its text. -/
theorem run_comment_writtenAs {d : Diagram} (h : d.Reachable) {p : Handle}
    (hp : d.isLive p = true) (c : Comment) :
    let name := NameKind.comment.name d.names.issued
    ∃ d' s ls, (comment p c).run d = (.ok (.name name), d') ∧ d'.log = d.log ++ [s] ∧
      c.WrittenAs (d.nameOf p) name ls s := by
  intro name
  obtain ⟨l, hl⟩ := Diagram.isLive_iff.1 hp
  have hscript : (comment p c).script d =
      .ok (.name name, [.comment l.name name (c.movement.getD "") c.size c.text]) := by
    rw [script, hl]
    rfl
  refine ⟨_, _, Text.linesOrBlank c.text, run_of_script h.named.distinct rfl hscript,
    Diagram.log_writeAll _ _, ?_⟩
  rw [Diagram.nameOf_eq hl]
  exact c.writtenAs_comment (h.named.isWord_of_liveLifeline hl) (NameKind.comment.isWord_name _)

/-- A carriage return of the text, a blank line and quotes are shown, and the line end at the
    end of the text and the empty size are not. -/
theorem run_comment_of_mixedLines :
    let d := (runAll [addParticipant (.object "o")] .empty).2
    let c : Comment := ⟨"a\r\r\n\n\"b\\\"\r\n", some "up 0.1", some ""⟩
    d.Reachable ∧ d.isLive ⟨0⟩ = true ∧
      ∃ d' s ls, (comment ⟨0⟩ c).run d = (.ok (.name (NameKind.comment.name 1)), d') ∧
        d'.log = d.log ++ [s] ∧
        c.WrittenAs (NameKind.participant.name 0) (NameKind.comment.name 1) ls s :=
  ⟨⟨_, rfl⟩, rfl, run_comment_writtenAs ⟨_, rfl⟩ rfl _⟩

end Op

end Lifelines
