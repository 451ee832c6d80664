import Lifelines.Proofs.SettingsFile

/-!
# Settings laid over others

Of two settings of one flag the later counts. This is so within a list of words, where
the flags are read one after the other, and it is so when settings are laid over others.
So words that come after others are as good as settings laid over theirs, as long as the
words before do not end with a flag that waits for its value. There is one exception: a
format that is not known is not passed over, but leaves no format, not even the one of
the words before.

* `Settings.flags`: the flags among words, each with its value;
* `Settings.scan_eq`: what is read from words, by the last value of each flag;
* `Settings.ofTokens_append_eq_union_iff`: words after others are laid over them, unless
  their last format is not known and there is one before.
-/

namespace Lifelines.Settings

/-- The flags among some words, each with its value. Only a flag at the very end may lack
    one. -/
def flags : List String → List (SettingKey × Option String)
  | [] => []
  | word :: rest =>
    match readFlag word, rest with
    | none, rest => flags rest
    | some (key, some value), rest => (key, some value) :: flags rest
    | some (key, none), value :: rest => (key, some value) :: flags rest
    | some (key, none), [] => [(key, none)]

/-- No flag at the end of the words waits for its value. -/
def Complete (words : List String) : Prop :=
  ∀ flag ∈ flags words, flag.2 ≠ none

instance (words : List String) : Decidable (Complete words) :=
  inferInstanceAs (Decidable (∀ flag ∈ flags words, flag.2 ≠ none))

/-- The value that a flag has last. -/
def lastValue? (key : SettingKey) (fs : List (SettingKey × Option String)) : Option String :=
  fs.reverse.findSome? fun flag => if flag.1 = key then flag.2 else none

/-- Fixes the setting of a flag that has a value. -/
def fixFlag (s : Settings) (flag : SettingKey × Option String) : Settings :=
  flag.2.elim s fun value => s.fix value flag.1

variable {s : Settings} {key : SettingKey} {word v : String} {rest a : List String}

/-! ### Flags among words -/

/-- A word that starts no flag is passed over. -/
theorem flags_skip (h : readFlag word = none) (rest : List String) :
    flags (word :: rest) = flags rest := by
  rw [flags.eq_def]
  simp only [h]

/-- A flag may have its value in the same word. -/
theorem flags_inline (h : readFlag word = some (key, some v)) (rest : List String) :
    flags (word :: rest) = (key, some v) :: flags rest := by
  rw [flags.eq_def]
  simp only [h]

/-- A flag without a value in its word takes the next word, whatever that is. -/
theorem flags_alone (h : readFlag word = some (key, none)) (v : String) (rest : List String) :
    flags (word :: v :: rest) = (key, some v) :: flags rest := by
  rw [flags.eq_def]
  simp only [h]

theorem flags_last (h : readFlag word = some (key, none)) : flags [word] = [(key, none)] := by
  rw [flags.eq_def]
  simp only [h]

/-- Words after complete ones are read on their own. -/
theorem flags_append (ha : Complete a) (b : List String) : flags (a ++ b) = flags a ++ flags b := by
  induction a using flags.induct with
  | case1 => rfl
  | case2 word rest hflag ih =>
    rw [Complete, flags_skip hflag] at ha
    rw [List.cons_append, flags_skip hflag, flags_skip hflag, ih ha]
  | case3 word key v rest hflag ih =>
    rw [Complete, flags_inline hflag] at ha
    rw [List.cons_append, flags_inline hflag, flags_inline hflag,
      ih (List.forall_mem_cons.1 ha).2, List.cons_append]
  | case4 word key v rest hflag ih =>
    rw [Complete, flags_alone hflag] at ha
    rw [List.cons_append, List.cons_append, flags_alone hflag, flags_alone hflag,
      ih (List.forall_mem_cons.1 ha).2, List.cons_append]
  -- a flag at the end still waits for its value, so the words are not complete
  | case5 word key hflag =>
    rw [Complete, flags_last hflag] at ha
    simp at ha

/-- Reading words fixes the settings of their flags one after the other. -/
theorem scan_eq_foldl (s : Settings) (words : List String) :
    scan s words = (flags words).foldl fixFlag s := by
  induction s, words using scan.induct with
  | case1 s => rfl
  | case2 s word rest hflag ih => rw [scan_skip hflag, flags_skip hflag, ih]
  | case3 s word key v rest hflag ih =>
    rw [scan_inline hflag, flags_inline hflag, ih, List.foldl_cons]
    rfl
  | case4 s word key v rest hflag ih =>
    rw [scan_alone hflag, flags_alone hflag, ih, List.foldl_cons]
    rfl
  | case5 s word key hflag =>
    rw [scan_last hflag, flags_last hflag]
    rfl

/-! ### The last value of a flag -/

/-- A later value counts before an earlier one. -/
theorem lastValue?_append (key : SettingKey) (fs gs : List (SettingKey × Option String)) :
    lastValue? key (fs ++ gs) = (lastValue? key gs).or (lastValue? key fs) := by
  rw [lastValue?, List.reverse_append, List.findSome?_append]
  rfl

/-- The first flag counts only if no later one has a value. -/
theorem lastValue?_cons (key : SettingKey) (flag : SettingKey × Option String)
    (fs : List (SettingKey × Option String)) : lastValue? key (flag :: fs) =
      (lastValue? key fs).or (if flag.1 = key then flag.2 else none) := by
  rw [← List.singleton_append, lastValue?_append]
  simp [lastValue?]

/-- A setting is fixed by the last value of its flag, if the flag has one. -/
theorem foldl_fixFlag (s : Settings) (fs : List (SettingKey × Option String)) :
    fs.foldl fixFlag s =
      { program := (lastValue? .program fs).or s.program
        library := (lastValue? .library fs).or s.library
        format := (lastValue? .format fs).elim s.format OutputFormat.parse?
        params := (lastValue? .params fs).or s.params } := by
  induction fs generalizing s with
  | nil => rfl
  | cons flag fs ih =>
    obtain ⟨key, value⟩ := flag
    rw [List.foldl_cons, ih]
    simp only [lastValue?_cons]
    cases value with
    | none => simp [fixFlag]
    | some v =>
      -- the flag counts only if no later one has a value
      cases key <;> simp [fixFlag, fix]
      cases lastValue? .format fs <;> rfl

/-- The settings among words, by the last value of each flag. -/
theorem ofTokens_eq (words : List String) : ofTokens words =
    { program := lastValue? .program (flags words)
      library := lastValue? .library (flags words)
      format := (lastValue? .format (flags words)).bind OutputFormat.parse?
      params := lastValue? .params (flags words) } := by
  rw [ofTokens, scan_eq_foldl, foldl_fixFlag]
  cases lastValue? .format (flags words) <;> simp

/-! ### Words after others -/

/-- Only the format of words after complete ones is not that of the settings laid over:
    where it is given, the one before does not count, whether it is known or not. -/
theorem ofTokens_append (ha : Complete a) (b : List String) : ofTokens (a ++ b) =
    { (ofTokens a).union (ofTokens b) with
      format := (lastValue? .format (flags b)).elim (ofTokens a).format OutputFormat.parse? } := by
  simp only [ofTokens_eq, flags_append ha, lastValue?_append, union]
  cases lastValue? .format (flags b) <;> simp

/-- Where a format that is not known drops one that is, and only there, the settings are not
    those laid over. -/
theorem format_eq_union_iff (base other : Settings) {value : Option String}
    (hother : other.format = value.bind OutputFormat.parse?) :
    value.elim base.format OutputFormat.parse? = (base.union other).format ↔
      ∀ v, value = some v → OutputFormat.parse? v = none → base.format = none := by
  rw [union, hother]
  cases value with
  | none => simp
  | some v =>
    cases hv : OutputFormat.parse? v with
    | none => simp [hv, eq_comm]
    | some f => simp [hv]

/-- Words after complete ones are laid over them, setting by setting. Only a format that is
    not known, given last, is not passed over: it takes away the format of the words before.
    A word that starts no flag is passed over. -/
theorem ofTokens_append_eq_union_iff (ha : Complete a) (b : List String) :
    let base := ofTokens a
    let other := ofTokens b
    let both := ofTokens (a ++ b)
    both.program = (base.union other).program ∧
      both.library = (base.union other).library ∧
      both.params = (base.union other).params ∧
      (both = base.union other ↔ ∀ v, lastValue? .format (flags b) = some v →
        OutputFormat.parse? v = none → base.format = none) ∧
      ∀ word, readFlag word = none → ofTokens (a ++ word :: b) = both := by
  intro base other both
  have hboth : both = _ := ofTokens_append ha b
  refine ⟨by rw [hboth], by rw [hboth], by rw [hboth], ?_, fun word hword => ?_⟩
  · have hother : other.format = (lastValue? .format (flags b)).bind OutputFormat.parse? := by
      simp only [other, ofTokens_eq]
    rw [← format_eq_union_iff base other hother, hboth]
    constructor
    · intro h
      exact congrArg Settings.format h
    · intro h
      rw [h]
  · simp only [both, ofTokens_eq, flags_append ha, flags_skip hword]

/-- A path and a format, and words after them that change the path and start nothing. -/
theorem layered_path : Complete ["--library", "a", "--format=svg"] ∧
    ofTokens (["--library", "a", "--format=svg"] ++ ["x", "--library=b"]) =
      (ofTokens ["--library", "a", "--format=svg"]).union (ofTokens ["x", "--library=b"]) := by
  have ha : Complete ["--library", "a", "--format=svg"] := by decide
  refine ⟨ha, (ofTokens_append_eq_union_iff ha _).2.2.2.1.2 ?_⟩
  intro v hv
  have hnone : lastValue? .format (flags ["x", "--library=b"]) = none := by decide
  rw [hnone] at hv
  cases hv

/-- A format that is not known drops the one before it. -/
theorem unknown_format_drops_format : Complete ["--format=svg"] ∧
    ofTokens (["--format=svg"] ++ ["--format=pdf"]) ≠
      (ofTokens ["--format=svg"]).union (ofTokens ["--format=pdf"]) :=
  ⟨by decide, by decide +kernel⟩

end Lifelines.Settings
