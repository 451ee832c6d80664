import Lifelines.Proofs.Runs
import Lifelines.Proofs.Scratch

/-!
# Runs that fail

A run prints last, and what it writes before that, the settings apart, is an image that is
written as a whole or not at all. So a run that fails has printed nothing, and the
files are those that were there before it, the settings file of the user apart if
settings were to be saved or cleared.

* `CommandLine.keeps_prepare`: the one file that may change before a run turns to the
  examples;
* `CommandLine.failsSilently_proceed`: what is done with the examples is done as a whole
  or not at all;
* `CommandLine.output_of_failed_run`: a failed run leaves no output.
-/

namespace Lifelines.CommandLine

variable {ε α β : Type} {spared : Set String} {env : Environment} {o : Options} {tool : Tool}

/-! ### Parts that print nothing -/

theorem keeps_orFail {error : ε → RunError} {result : Except ε α} :
    Keeps spared (orFail error result) := by
  cases result <;> exact .of_run fun _ => rfl

/-- Settings are only read here. -/
theorem keeps_effectiveSettings : Keeps spared (effectiveSettings env o) := by
  unfold effectiveSettings
  split
  · exact .of_run fun _ => rfl
  · refine .bind (.of_run fun _ => rfl) fun files => ?_
    refine .bind keeps_orFail fun user => .bind keeps_orFail fun here => ?_
    exact .of_run fun _ => rfl

/-- The settings file of the user, if settings are to be saved or cleared. -/
def rewritten (env : Environment) (o : Options) : Set String :=
  {path | path = env.globalSettingsPath ∧ (o.has .save ∨ o.has .clear)}

/-- Storing settings changes at most the file of the user. -/
theorem keeps_storeSettings (env : Environment) (o : Options) :
    Keeps (rewritten env o) (storeSettings env o) := by
  have hrewritten (h : o.has .save ∨ o.has .clear) : {env.globalSettingsPath} ⊆ rewritten env o :=
    Set.singleton_subset_iff.2 ⟨rfl, h⟩
  -- without a switch nothing is stored at all
  have hsave : Keeps (rewritten env o) (if o.has .save then
      (Settings.save env.globalSettingsPath o.settings).adapt RunError.config else pure ()) := by
    split
    · next h => exact ((Settings.keeps_save _ _).adapt _).mono (hrewritten (.inl h))
    · exact .of_run fun _ => rfl
  unfold storeSettings
  dsimp only
  split
  · next h =>
    exact .bind (((Settings.keeps_clear _).adapt _).mono (hrewritten (.inr h))) fun _ => hsave
  · exact hsave

theorem keeps_prepare (env : Environment) (o : Options) :
    Keeps (rewritten env o) (prepare env o) :=
  (keeps_storeSettings env o).bind fun _ => keeps_effectiveSettings

/-- An example is drawn without a change of files; parameters are only read. -/
theorem keeps_drawDemo {name : String} {params : Option String} :
    Keeps ∅ (drawDemo name params) := by
  unfold drawDemo
  split
  · refine .bind keeps_orFail fun diagram => ?_
    split
    · exact keeps_orFail
    · refine .bind (.of_run fun _ => rfl) fun files => .bind keeps_orFail fun overrides => ?_
      exact .bind keeps_orFail fun _ => keeps_orFail
  · exact .of_run fun _ => rfl

/-- An example that is not rendered leaves no file; a directory made for it is none. -/
theorem failsCleanly_renderDemo (htool : tool.KeepsFiles) {settings : Settings} {name : String}
    {doc : Document} {library : String} :
    FailsCleanly (renderDemo tool o settings name doc library) :=
  .bind ((Filing.keeps_makeDirectories _).adapt _) fun _ =>
    (Renderer.failsCleanly_render rfl htool).adapt _

/-! ### Parts that print -/

/-- If this fails, it has printed nothing and left all files as they were. -/
def FailsSilently (x : Printing α) : Prop :=
  ∀ printed t e printed' t', (x.run.run printed).run t = ((.error e, printed'), t') →
    printed' = printed ∧ FileTree.Retains ∅ t t'

/-- To fail prints nothing. -/
theorem FailsSilently.throw (e : RunError) : FailsSilently (throw e : Printing α) := by
  intro printed t e' printed' t' h
  cases h
  exact ⟨rfl, .refl _ t⟩

/-- What prints nothing and changes no file may come before what fails silently. -/
theorem FailsSilently.quietly_bind {x : Running α} {f : α → Printing β} (hx : Keeps ∅ x)
    (hf : ∀ a, FailsSilently (f a)) : FailsSilently (quietly x >>= f) := by
  intro printed t e printed' t' h
  have ht := keeps_empty_iff.1 hx t
  rw [run_quietly_bind] at h
  rcases hrun : x.run.run t with ⟨_ | a, t₁⟩ <;> rw [hrun] at h ht
  · cases h
    exact ⟨rfl, ht⟩
  · obtain ⟨hprinted, hrest⟩ := hf a printed t₁ e printed' t' h
    exact ⟨hprinted, ht.trans hrest⟩

/-- Printing does not fail. -/
theorem FailsSilently.print (text : String) : FailsSilently (print text) := by
  intro printed t e printed' t' h
  cases h

/-- What fails cleanly may come before printing, which does not fail. -/
theorem FailsSilently.quietly_bind_print {x : Running α} (hx : FailsCleanly x)
    (text : α → String) : FailsSilently (quietly x >>= fun a => CommandLine.print (text a)) := by
  intro printed t e printed' t' h
  rw [run_quietly_bind] at h
  rcases hrun : x.run.run t with ⟨_ | a, t₁⟩ <;> rw [hrun] at h <;> cases h
  exact ⟨rfl, hx t _ _ hrun⟩

/-- An example is shown as a whole, or nothing is seen of it. -/
theorem failsSilently_showDemo (htool : tool.KeepsFiles) (settings : Settings) (name : String) :
    FailsSilently (showDemo tool env o settings name) := by
  unfold showDemo
  refine .quietly_bind keeps_drawDemo fun doc => .quietly_bind (.of_run fun _ => rfl) fun t => ?_
  dsimp only
  split
  · exact .print _
  · split
    · exact .throw _
    · exact .quietly_bind_print (failsCleanly_renderDemo htool) _

/-- What is done with the examples is seen as a whole, or nothing is seen of it. -/
theorem failsSilently_proceed (htool : tool.KeepsFiles) (settings : Settings) :
    FailsSilently (proceed tool env o settings) := by
  unfold proceed
  split
  · exact .print _
  · split
    · exact failsSilently_showDemo htool settings _
    · split
      · intro printed t e printed' t' h
        cases h
      · exact .throw _

/-! ### Runs -/

/-- A run that fails may have changed the settings file of the user on its way to its
    settings, and nothing after that. -/
theorem output_of_failed_report (htool : tool.KeepsFiles) {t : FileTree}
    (hcode : ((report (execute tool env o)).run t).1.code ≠ 0) :
    ((report (execute tool env o)).run t).1.stdout = "" ∧
      FileTree.Retains (t.target '' rewritten env o) t
        ((report (execute tool env o)).run t).2 := by
  have hprepare := keeps_prepare env o t
  rw [run_report_execute] at hcode ⊢
  rcases hrun : (prepare env o).run.run t with ⟨e | settings, t₁⟩ <;> rw [hrun] at hprepare
  · -- without settings, nothing is printed or drawn
    exact ⟨rfl, hprepare⟩
  · simp only [hrun, run_report] at hcode ⊢
    rcases hproceed : ((proceed tool env o settings).run.run "").run t₁ with
      ⟨⟨e | _, printed⟩, t₂⟩
    · obtain ⟨rfl, hrest⟩ := failsSilently_proceed htool settings "" t₁ e printed t₂ hproceed
      exact ⟨rfl, hprepare.trans (hrest.mono (Set.empty_subset _))⟩
    · simp [hproceed] at hcode

/-- A run that fails has printed nothing and leaves the files that were there before: none is
    made, changed or taken away, except the settings file of the user if settings were to be
    saved or cleared. The layout tool may read what it likes, but not change files. -/
theorem output_of_failed_run (tool : Tool) (htool : tool.KeepsFiles) (env : Environment)
    (args : List String) (t : FileTree) (hcode : ((run tool env args).run t).1.code ≠ 0) :
    ((run tool env args).run t).1.stdout = "" ∧
      ∀ l, ((run tool env args).run t).2.file? l = t.file? l ∨
        l = t.target env.globalSettingsPath ∧
          ∃ o, parse args = .ok (.run o) ∧ (o.has .save ∨ o.has .clear) := by
  unfold run at hcode ⊢
  rcases hparse : parse args with e | command
  · exact ⟨rfl, fun l => .inl rfl⟩
  · cases command with
    | help => simp only [hparse] at hcode; exact absurd rfl hcode
    | version => simp only [hparse] at hcode; exact absurd rfl hcode
    | run o =>
      simp only [hparse] at hcode ⊢
      obtain ⟨hstdout, hfiles⟩ := output_of_failed_report htool hcode
      refine ⟨hstdout, fun l => ?_⟩
      -- the only file that is not retained is that of the user, when it was to be written
      by_cases hl : l ∈ t.target '' rewritten env o
      · obtain ⟨path, ⟨rfl, hswitch⟩, rfl⟩ := hl
        exact .inr ⟨rfl, o, rfl, hswitch⟩
      · exact .inl (hfiles.file l hl)

/-- A tool that prints nothing. -/
def silentTool : Tool := fun _ => pure (.ended (.code 0) .empty .empty)

/-- A directory for scratch files, and a working directory with the macro library in it. -/
def scratchAndHome : FileTree where
  entries := [(["tmp"], .directory), (["home"], .directory),
    (["home", "sequence.pic"], .file .empty false)]
  here := ["home"]

/-- A run that saves its settings, draws an example and gets no image leaves at most the
    settings. -/
theorem output_of_run_without_image :
    let outcome := (run silentTool ⟨[("HOME", "/home")]⟩
      ["--save", "--format", "png", "authentication"]).run scratchAndHome
    outcome.1.code ≠ 0 ∧ outcome.1.stdout = "" ∧
      ∀ l, outcome.2.file? l = scratchAndHome.file? l ∨
        l = scratchAndHome.target "/home/.config/sequenceplot/config" ∧
          ∃ o, parse ["--save", "--format", "png", "authentication"] = .ok (.run o) ∧
            (o.has .save ∨ o.has .clear) := by
  have hcode : ((run silentTool ⟨[("HOME", "/home")]⟩
      ["--save", "--format", "png", "authentication"]).run scratchAndHome).1.code ≠ 0 := by
    decide +kernel
  exact ⟨hcode, output_of_failed_run silentTool (fun _ t => .refl _ t) ⟨[("HOME", "/home")]⟩
    ["--save", "--format", "png", "authentication"] scratchAndHome hcode⟩

end Lifelines.CommandLine
