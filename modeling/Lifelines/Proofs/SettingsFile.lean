import Lifelines.Proofs.FileWriting
import Lifelines.Proofs.Words
import Mathlib.Algebra.GroupWithZero.Nat

/-!
# Settings that survive in a file

Settings are written line by line, a flag and its value on each, but they are read
word by word, without regard to lines. So a path with a blank in it is read in parts,
and after an empty path the flag of the next line is read as the value. Nothing else
is lost: a word that looks like a flag or like a comment is read as a value all the
same where a value is due.

* `Settings.ReadFrom`: settings that are read have no blank in a path, and they are no
  longer than what they are read from, even shorter if a path is empty;
* `Settings.wordsOfText_toText`: the words that settings are written with;
* `Settings.load_eq_of_save_iff`: settings are read back from a file just in case each
  path is one word.
-/

namespace Lifelines

/-! ### Formats -/

namespace OutputFormat

/-- An extension names its own format. -/
theorem parse?_extension (f : OutputFormat) : parse? f.extension = some f := by
  have hlower : f.extension.map Char.toLower = f.extension := by
    refine String.toList_inj.1 ?_
    rw [String.toList_map]
    cases f <;> decide
  rw [parse?, hlower]
  cases f <;> decide

/-- A name that is read as a format is as long as the format's name. -/
theorem length_of_parse? {name : String} {f : OutputFormat} (h : parse? name = some f) :
    f.extension.length = name.length := by
  have heq : f.extension = name.map Char.toLower := by simpa using List.find?_some h
  rw [heq]
  simp

end OutputFormat

namespace Settings

open Text (Unbroken)

variable {s : Settings} {key : SettingKey} {v : String}

/-! ### Flags among words -/

/-- A word is made of the flag and the value that it is split into. -/
theorem eq_of_splitWord {word k : List Char} {value : Option (List Char)}
    (h : splitWord word = (k, value)) : word = k ++ (value.map ('=' :: ·)).getD [] := by
  have hword := List.takeWhile_append_dropWhile (p := (· ≠ '=')) (l := word)
  rw [splitWord] at h
  split at h
  · split at h
    · next hdrop =>
      cases h
      rw [hdrop] at hword
      exact hword.symm
    · next c _ hdrop =>
      cases h
      -- what stops the key is the equals sign
      have hhead := List.head?_dropWhile_not (· ≠ '=') word
      rw [hdrop] at hhead hword
      obtain rfl : c = '=' := by simpa using hhead
      exact hword.symm
  · cases h
    exact (List.append_nil word).symm

/-- A word read as a flag is the flag's text, followed by `=` and the value when it carries
    one. -/
theorem eq_of_readFlag {word : String} {value : Option String}
    (h : readFlag word = some (key, value)) :
    word = key.flag ++ (value.map ("=" ++ ·)).getD "" := by
  rw [readFlag] at h
  cases hsplit : splitWord word.toList with
  | mk k chars =>
    rw [hsplit] at h
    obtain ⟨key', hkey, heq⟩ := Option.map_eq_some_iff.1 h
    obtain ⟨rfl, rfl⟩ := Prod.mk.inj heq
    have hflag : key'.flag = String.ofList k := by simpa using List.find?_some hkey
    refine String.toList_inj.1 ?_
    rw [eq_of_splitWord hsplit, hflag]
    cases chars <;> simp

section

variable {word : String}

/-- A word that is no known flag is passed over. -/
theorem scan_skip (h : readFlag word = none) (rest : List String) :
    scan s (word :: rest) = scan s rest := by
  rw [scan.eq_def]
  simp only [h]

/-- A flag with its value behind `=` fixes that setting. -/
theorem scan_inline (h : readFlag word = some (key, some v)) (rest : List String) :
    scan s (word :: rest) = scan (s.fix v key) rest := by
  rw [scan.eq_def]
  simp only [h]

/-- A flag on its own fixes its setting at the next word, whatever that word is. -/
theorem scan_alone (h : readFlag word = some (key, none)) (v : String) (rest : List String) :
    scan s (word :: v :: rest) = scan (s.fix v key) rest := by
  rw [scan.eq_def]
  simp only [h]

theorem scan_last (h : readFlag word = some (key, none)) : scan s [word] = s := by
  rw [scan.eq_def]
  simp only [h]

end

theorem readFlag_flag (key : SettingKey) : readFlag key.flag = some (key, none) := by
  cases key <;> decide

/-! ### Paths -/

/-- The paths among settings. -/
def paths (s : Settings) : List String :=
  s.program.toList ++ s.library.toList ++ s.params.toList

/-- Fixing one setting brings in no path but the value given. -/
theorem eq_or_mem_of_mem_paths_fix {p : String} (h : p ∈ (s.fix v key).paths) :
    p = v ∨ p ∈ s.paths := by
  cases key <;>
    simp only [fix, paths, Option.toList_some, List.mem_append, List.mem_singleton] at h ⊢ <;> tauto

/-- The words of a settings text are not empty and have no blank in them. -/
theorem word_of_mem_wordsOfText {text w : String} (h : w ∈ wordsOfText text) :
    w ≠ "" ∧ Unbroken w := by
  obtain ⟨line, _, hw⟩ := List.mem_flatMap.1 h
  exact Text.unbroken_of_mem_words hw

/-! ### What is read from words -/

/-- The written form of the setting of a flag. -/
def value? (s : Settings) : SettingKey → Option String
  | .program => s.program
  | .library => s.library
  | .format => s.format.map OutputFormat.extension
  | .params => s.params

/-- How many characters a setting is written with, blanks apart. -/
def cost (key : SettingKey) : Option String → Nat
  | some v => key.flag.length + v.length
  | none => 0

/-- How many characters settings are written with, blanks apart. -/
def weight (s : Settings) : Nat :=
  (SettingKey.all.map fun key => cost key (s.value? key)).sum

/-- Fixing one setting adds at most the length of its flag and of its value to what is written.
    -/
theorem weight_fix_le (s : Settings) (v : String) (key : SettingKey) :
    (s.fix v key).weight ≤ s.weight + key.flag.length + v.length := by
  have hformat : cost .format ((OutputFormat.parse? v).map OutputFormat.extension) ≤
      SettingKey.format.flag.length + v.length := by
    cases hf : OutputFormat.parse? v with
    | none => exact Nat.zero_le _
    | some f => rw [Option.map_some, cost, OutputFormat.length_of_parse? hf]
  cases key <;> simp only [weight, SettingKey.all, List.map_cons, List.map_nil, List.sum_cons,
    List.sum_nil, value?, fix, cost] at hformat ⊢ <;> omega

/-- What is known of settings that are read from words with `n` characters together. -/
structure ReadFrom (s : Settings) (n : Nat) : Prop where
  unbroken : ∀ p ∈ s.paths, Unbroken p
  le : s.weight ≤ n
  /-- A path that is empty has been given after an equals sign, which is not kept. -/
  lt : "" ∈ s.paths → s.weight < n

namespace ReadFrom

variable {n : Nat}

/-- The empty settings can be read from no words at all. -/
theorem empty : ReadFrom {} 0 where
  unbroken := by simp [paths]
  le := Nat.le_refl 0
  lt := by simp [paths]

theorem mono {m : Nat} (h : s.ReadFrom n) (hle : n ≤ m) : s.ReadFrom m :=
  ⟨h.unbroken, h.le.trans hle, fun hp => (h.lt hp).trans_le hle⟩

/-- Paths without a blank stay so when a setting is fixed at a word. -/
theorem unbroken_fix (h : s.ReadFrom n) (hv : Unbroken v) (key : SettingKey) :
    ∀ p ∈ (s.fix v key).paths, Unbroken p := by
  intro p hp
  rcases eq_or_mem_of_mem_paths_fix hp with rfl | hp
  · exact hv
  · exact h.unbroken p hp

/-- A flag that is followed by its value. -/
theorem fix (h : s.ReadFrom n) (hne : v ≠ "") (hv : Unbroken v) (key : SettingKey) :
    (s.fix v key).ReadFrom (n + key.flag.length + v.length) where
  unbroken := h.unbroken_fix hv key
  le := by
    have hle := weight_fix_le s v key
    have hs := h.le
    omega
  lt hp := by
    have hle := weight_fix_le s v key
    have hs := h.lt ((eq_or_mem_of_mem_paths_fix hp).resolve_left hne.symm)
    omega

/-- A flag with an equals sign and a value, which may be empty. -/
theorem fix_inline (h : s.ReadFrom n) (hv : Unbroken v) (key : SettingKey) :
    (s.fix v key).ReadFrom (n + key.flag.length + 1 + v.length) := by
  have hle := weight_fix_le s v key
  have hs := h.le
  refine ⟨h.unbroken_fix hv key, ?_, fun _ => ?_⟩ <;> omega

/-- What a flag is given is a word or ends one, and no character counts twice. -/
theorem scan {ws : List String} (hws : ∀ w ∈ ws, w ≠ "" ∧ Unbroken w) (h : s.ReadFrom n) :
    (scan s ws).ReadFrom (n + (ws.map String.length).sum) := by
  induction s, ws using scan.induct generalizing n with
  | case1 s => exact h
  | case2 s word rest hflag ih =>
    rw [scan_skip hflag]
    refine (ih (List.forall_mem_cons.1 hws).2 h).mono ?_
    simp
  | case3 s word key v rest hflag ih =>
    -- the flag, the equals sign and the value are parts of one word
    obtain ⟨⟨-, hword⟩, hrest⟩ := List.forall_mem_cons.1 hws
    have hsplit : word = key.flag ++ ("=" ++ v) := eq_of_readFlag hflag
    have hv : Unbroken v := fun c hc => hword c (by simp [hsplit, hc])
    have hlength : word.length = key.flag.length + 1 + v.length := by
      rw [hsplit, String.length_append, String.length_append, ← Nat.add_assoc]
      rfl
    rw [scan_inline hflag]
    refine (ih hrest (h.fix_inline hv key)).mono ?_
    rw [List.map_cons, List.sum_cons, hlength]
    omega
  | case4 s word key v rest hflag ih =>
    -- the flag and its value are words of their own, so the value is not empty
    obtain ⟨-, ⟨hne, hv⟩, hrest⟩ := by simpa only [List.forall_mem_cons] using hws
    have hword : word = key.flag := by simpa using eq_of_readFlag hflag
    rw [scan_alone hflag]
    refine (ih hrest (h.fix hne hv key)).mono ?_
    rw [List.map_cons, List.map_cons, List.sum_cons, List.sum_cons, hword]
    omega
  | case5 s word key hflag =>
    rw [scan_last hflag]
    exact h.mono (Nat.le_add_right _ _)

end ReadFrom

/-- What a text is read as is no heavier than the text's words: the flags and values kept all
    stand in it. -/
theorem readFrom_ofText (text : String) :
    (ofText text).ReadFrom ((wordsOfText text).map String.length).sum :=
  (ReadFrom.empty.scan fun _ => word_of_mem_wordsOfText).mono (by simp)

/-! ### The words of a settings file -/

/-- The words that a setting is written with; an empty value is none. -/
def lineWords (key : SettingKey) : Option String → List String
  | some v => key.flag :: if v = "" then [] else [v]
  | none => []

/-- The words that settings are written with. -/
def written (s : Settings) : List String :=
  SettingKey.all.flatMap fun key => lineWords key (s.value? key)

/-- The text of a settings file, as its heading and at most one line for each setting. -/
theorem textLines_eq (s : Settings) :
    s.textLines = header :: SettingKey.all.flatMap fun key => line key (s.value? key) := by
  simp [textLines, SettingKey.all, value?]

/-- What is written for a flag is a path or the name of a format. -/
theorem mem_paths_or_eq_extension (hv : s.value? key = some v) :
    v ∈ s.paths ∨ ∃ f : OutputFormat, v = f.extension := by
  cases key with
  | program | library | params => exact .inl (by simp_all [paths, value?])
  | format =>
    obtain ⟨f, _, rfl⟩ := Option.map_eq_some_iff.1 hv
    exact .inr ⟨f, rfl⟩

/-- Written values have no blank in them when the paths have none; a format's name never does.
    -/
theorem unbroken_of_value? (hs : ∀ p ∈ s.paths, Unbroken p) (hv : s.value? key = some v) :
    Unbroken v := by
  rcases mem_paths_or_eq_extension hv with hp | ⟨f, rfl⟩
  · exact hs v hp
  · cases f <;> exact Text.unbroken_of_all (by decide)

/-- Written values are not empty when the paths are not. -/
theorem ne_empty_of_value? (hs : ∀ p ∈ s.paths, p ≠ "") (hv : s.value? key = some v) :
    v ≠ "" := by
  rcases mem_paths_or_eq_extension hv with hp | ⟨f, rfl⟩
  · exact hs v hp
  · cases f <;> decide

theorem flag_ne_empty (key : SettingKey) : key.flag ≠ "" := by
  cases key <;> decide

theorem unbroken_flag (key : SettingKey) : Unbroken key.flag := by
  cases key <;> exact Text.unbroken_of_all (by decide)

/-- Every line of a settings text is one line when the paths have no blank in them. -/
theorem isInline_of_mem_textLines (hs : ∀ p ∈ s.paths, Unbroken p) {l : String}
    (h : l ∈ s.textLines) : Text.IsInline l := by
  rw [textLines_eq] at h
  rcases List.mem_cons.1 h with rfl | h
  · exact Text.isInline_of_all (by decide)
  · obtain ⟨key, _, h⟩ := List.mem_flatMap.1 h
    cases hv : s.value? key with
    | none => simp [hv, line] at h
    | some v =>
      obtain rfl : l = key.flag ++ " " ++ v := by simpa [hv, line] using h
      have hblank : Text.IsInline " " := Text.isInline_of_all (by decide)
      exact ((unbroken_flag key).isInline.append hblank).append (unbroken_of_value? hs hv).isInline

theorem isRelevant_flag_append (key : SettingKey) (rest : String) :
    isRelevant (key.flag ++ rest) = true := by
  cases key <;> simp [isRelevant, SettingKey.flag]

/-- The line of a setting is read back as the words of that setting. -/
theorem words_line {value : Option String} (hv : ∀ v, value = some v → Unbroken v) :
    (((line key value).map Text.trim).filter isRelevant).flatMap Text.words =
      lineWords key value := by
  cases value with
  | none => rfl
  | some v =>
    -- an empty value leaves a blank at the end of the line, which is trimmed
    have htrim := Text.trim_pair (flag_ne_empty key) (unbroken_flag key) (hv v rfl)
    have hrelevant : isRelevant (Text.trim (key.flag ++ " " ++ v)) = true := by
      rw [htrim]
      split
      · simpa using isRelevant_flag_append key ""
      · rw [String.append_assoc]
        exact isRelevant_flag_append key _
    simp only [line, Option.map_some, Option.toList_some, List.map_cons, List.map_nil,
      List.filter_cons_of_pos hrelevant, List.filter_nil, List.flatMap_singleton]
    exact Text.words_trim_pair (flag_ne_empty key) (unbroken_flag key) (hv v rfl)

/-- Settings without a blank in a path are written with their words. -/
theorem wordsOfText_toText (hs : ∀ p ∈ s.paths, Unbroken p) : wordsOfText s.toText = s.written := by
  have hheader : ¬isRelevant (Text.trim header) = true := by decide
  rw [wordsOfText, toText, Text.lines_unlines (by simp [textLines])
    fun l hl => isInline_of_mem_textLines hs hl, textLines_eq, List.map_cons,
    List.filter_cons_of_neg hheader, List.map_flatMap, List.filter_flatMap, List.flatMap_assoc,
    written]
  congr 1
  funext key
  exact words_line fun v hv => unbroken_of_value? hs hv

/-- The words of a setting have the length the setting counts for. -/
theorem sum_length_lineWords (key : SettingKey) (value : Option String) :
    ((lineWords key value).map String.length).sum = cost key value := by
  cases value with
  | none => rfl
  | some v =>
    by_cases hv : v = ""
    · simp [lineWords, cost, hv]
    · simp [lineWords, cost, hv]

theorem sum_length_written (s : Settings) : (s.written.map String.length).sum = s.weight := by
  simp [written, weight, SettingKey.all, sum_length_lineWords]

/-- Where no value is empty, the words fix the settings of the flags one after the other. -/
theorem scan_flatMap_lineWords (hs : ∀ p ∈ s.paths, p ≠ "") (base : Settings)
    (keys : List SettingKey) : scan base (keys.flatMap fun key => lineWords key (s.value? key)) =
      keys.foldl (fun base key => (s.value? key).elim base fun v => base.fix v key) base := by
  induction keys generalizing base with
  | nil => rfl
  | cons key keys ih =>
    rw [List.flatMap_cons, List.foldl_cons, ← ih]
    cases hv : s.value? key with
    | none => rfl
    | some v =>
      rw [lineWords, if_neg (ne_empty_of_value? hs hv)]
      exact scan_alone (readFlag_flag key) v _

/-- Reading the words written for some settings gives these settings, whatever their values
    look like. -/
theorem ofTokens_written (hs : ∀ p ∈ s.paths, p ≠ "") : ofTokens s.written = s := by
  rw [ofTokens, written, scan_flatMap_lineWords hs]
  obtain ⟨program, library, format, params⟩ := s
  cases program <;> cases library <;> cases format <;> cases params <;>
    simp [SettingKey.all, value?, fix, OutputFormat.parse?_extension]

/-! ### Settings read back -/

/-- Settings are read from their text as they are if each path among them is one word.
    Otherwise they are not: what is read has no blank, and an empty path leaves its
    flag to take a word that is missing then. -/
theorem ofText_toText_iff : ofText s.toText = s ↔ ∀ p ∈ s.paths, p ≠ "" ∧ Unbroken p := by
  constructor
  · intro h
    have hread := readFrom_ofText s.toText
    rw [h] at hread
    refine fun p hp => ⟨?_, hread.unbroken p hp⟩
    rintro rfl
    -- the settings would have to be shorter than the words that they are written with
    rw [wordsOfText_toText hread.unbroken, sum_length_written] at hread
    exact Nat.lt_irrefl _ (hread.lt hp)
  · intro h
    rw [ofText, wordsOfText_toText fun p hp => (h p hp).2, ofTokens_written fun p hp => (h p hp).1]

example : ofText (toText { program := some "", library := some "x" }) =
    { program := some "--library" } := by decide +kernel

/-- Settings that have been written to a file are read back from it just in case each
    path among them is one word. -/
theorem load_eq_of_save_iff {t t' : FileTree} {path : String}
    (h : (save path s).run.run t = (.ok (), t')) :
    load t' path = .ok s ↔ ∀ p ∈ s.paths, p ≠ "" ∧ Unbroken p := by
  rw [load_of_run_save h, Except.ok.injEq, ofText_toText_iff]

/-- Paths that look like a flag with a value, a comment and a flag. -/
def lookalikes : Settings where
  program := some "--library=x"
  library := some "#y"
  format := some .gif
  params := some "--params"

/-- Such paths survive. -/
theorem load_lookalikes : ∃ t', (save "c" lookalikes).run.run {} = (.ok (), t') ∧
    load t' "c" = .ok lookalikes := by
  refine ⟨_, rfl, (load_eq_of_save_iff (t := {}) rfl).2 ?_⟩
  intro p hp
  have hpaths : p = "--library=x" ∨ p = "#y" ∨ p = "--params" := by
    simpa [paths, lookalikes] using hp
  rcases hpaths with rfl | rfl | rfl <;> exact ⟨by decide, Text.unbroken_of_all (by decide)⟩

end Settings

end Lifelines
