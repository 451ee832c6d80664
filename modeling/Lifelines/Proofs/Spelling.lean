import Lifelines.Proofs.Layering

/-!
# Two spellings of a flag

A flag and its value are two words, or they are one with an equals sign between them. It
makes no difference which, whatever the words before and after are, as long as the flag is
not itself the value of a flag before it. Nor does it matter what the value looks like: it
may be empty, it may have equals signs, and it may be a flag. A flag that no word follows
is passed over.

* `Settings.readFlag_joined`: a word that is split at its first equals sign;
* `Settings.ofTokens_append_words`: words after complete ones go on from their settings;
* `Settings.ofTokens_eq_of_spelling`: the two spellings, and a flag without a value.
-/

namespace Lifelines.Settings

variable {a : List String}

/-! ### Words with an equals sign -/

/-- The first equals sign of a word that starts with a flag is the one after the flag. -/
theorem splitWord_flag_append (key : SettingKey) (v : List Char) :
    splitWord (key.flag.toList ++ '=' :: v) = (key.flag.toList, some v) := by
  cases key <;> rfl

/-- A flag joined to a value by `=` is read as the flag with that value, even if the value has
    a `=` in it. -/
theorem readFlag_joined (key : SettingKey) (v : String) :
    readFlag (key.flag ++ "=" ++ v) = some (key, some v) := by
  have hword : (key.flag ++ "=" ++ v).toList = key.flag.toList ++ '=' :: v.toList := by simp
  have hkey : SettingKey.ofFlag? key.flag = some key := by cases key <;> decide
  rw [readFlag, hword, splitWord_flag_append]
  simp [hkey]

/-! ### Words after complete ones -/

/-- After a complete list, reading goes on with what follows, from the settings read so far. -/
theorem ofTokens_append_words (ha : Complete a) (b : List String) :
    ofTokens (a ++ b) = scan (ofTokens a) b := by
  rw [ofTokens, ofTokens, scan_eq_foldl, scan_eq_foldl, scan_eq_foldl, flags_append ha,
    List.foldl_append]

/-- Both spellings of a flag with a value fix the setting of the flag, and the words after
    it are read as they are. A flag at the very end fixes nothing. -/
theorem ofTokens_eq_of_spelling (ha : Complete a) (key : SettingKey) :
    (∀ v b, ofTokens (a ++ [key.flag, v] ++ b) = ofTokens (a ++ [key.flag ++ "=" ++ v] ++ b) ∧
      ofTokens (a ++ [key.flag, v] ++ b) = scan ((ofTokens a).fix v key) b) ∧
    ofTokens (a ++ [key.flag]) = ofTokens a := by
  refine ⟨fun v b => ?_, ?_⟩
  · -- both spellings come down to fixing the setting before the rest is read
    have hseparate : ofTokens (a ++ [key.flag, v] ++ b) = scan ((ofTokens a).fix v key) b := by
      rw [List.append_assoc, ofTokens_append_words ha]
      exact scan_alone (readFlag_flag key) v b
    have hjoined : ofTokens (a ++ [key.flag ++ "=" ++ v] ++ b) =
        scan ((ofTokens a).fix v key) b := by
      rw [List.append_assoc, ofTokens_append_words ha]
      exact scan_inline (readFlag_joined key v) b
    exact ⟨hseparate.trans hjoined.symm, hseparate⟩
  · rw [ofTokens_append_words ha]
    exact scan_last (readFlag_flag key)

/-- A value that looks like another flag, after words that end in one that is a value. -/
theorem spellings_of_lookalike : Complete ["--params", "--format"] ∧
    ofTokens (["--params", "--format"] ++ ["--library", "--format=png"] ++ ["--format=gif"]) =
      ofTokens (["--params", "--format"] ++ ["--library=--format=png"] ++ ["--format=gif"]) := by
  have ha : Complete ["--params", "--format"] := by decide
  exact ⟨ha, ((ofTokens_eq_of_spelling ha .library).1 "--format=png" ["--format=gif"]).1⟩

/-- A flag that is itself a value has no value of its own. -/
example : ofTokens ["--params", "--format", "png"] ≠ ofTokens ["--params", "--format=png"] := by
  decide +kernel

end Lifelines.Settings
