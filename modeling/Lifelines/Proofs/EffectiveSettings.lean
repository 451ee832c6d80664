import Lifelines.Proofs.FileWriting
import Lifelines.Proofs.Runs
import Lifelines.Proofs.UserSettings

/-!
# The settings of a run

The settings of the command line count first, then those of the working directory, then
those of the user. The latter two are read from the text of a file, and where the file is
missing there are none. A run that clears or saves settings does so before it reads any, so
that what was in the file of the user has no influence on it. Once a run has its settings,
those of the command line do not count on their own any more.

* `FileTree.Holds`, `Settings.ofFile`: what a settings file holds, and the settings in it;
* `CommandLine.run_eq_proceed`: a run that leaves the settings files alone;
* `CommandLine.run_eq_of_clear`: a run that clears the settings;
* `CommandLine.run_prepare_congr`: what a run does to the settings does not depend on the
  file of the user;
* `CommandLine.settings_of_run`: all of it for an accepted command line.
-/

namespace Lifelines

/-! ### What settings files hold -/

/-- What is in the place of a settings file: a text, or nothing. -/
def FileTree.Holds (t : FileTree) (path : String) : Option String → Prop
  | none => t.leads path = false
  | some text => t.readText path = .ok text

/-- The settings of a file with some text, or of one that is missing. -/
def Settings.ofFile (text? : Option String) : Settings :=
  text?.elim {} ofText

/-- Settings are loaded from the text of their file; a file that is missing has none. -/
theorem Settings.load_of_holds {t : FileTree} {path : String} {text? : Option String}
    (h : t.Holds path text?) : load t path = .ok (ofFile text?) := by
  cases text? with
  | none =>
    have hleads : t.leads path = false := h
    rw [load, if_neg (by simp [hleads])]
    rfl
  | some text => exact load_of_readText h

namespace CommandLine

/-! ### Options without settings -/

/-- What is left of some options without the settings among them. -/
def Options.withoutSettings (o : Options) : Options :=
  { o with values := o.values.filter fun entry => entry.1 = .outDir }

variable {tool : Tool} {env : Environment} {o : Options} {t t₁ t₂ : FileTree} {l : Location}
  {userText hereText : Option String}

/-- Only the directory for images is left. -/
theorem value?_withoutSettings (o : Options) (v : Valued) :
    o.withoutSettings.value? v = if v = .outDir then o.value? v else none := by
  unfold Options.value? Options.withoutSettings
  dsimp only
  induction o.values with
  | nil => simp
  | cons entry values ih =>
    obtain ⟨w, value⟩ := entry
    by_cases hw : w = .outDir
    · subst hw
      rw [List.filter_cons_of_pos (by simp), List.lookup_cons, List.lookup_cons, ih]
      by_cases hv : v = .outDir
      · simp [hv]
      · simp [hv, beq_false_of_ne hv]
    · rw [List.filter_cons_of_neg (by simpa using hw), ih]
      split
      · next hv => simp [List.lookup_cons, hv, beq_false_of_ne (Ne.symm hw)]
      · rfl

/-- Options without settings have none left. -/
theorem settings_withoutSettings (o : Options) : o.withoutSettings.settings = {} := by
  simp [Options.settings, value?_withoutSettings]

/-- A run that has its settings looks at no others. -/
theorem proceed_withoutSettings (tool : Tool) (env : Environment) (o : Options)
    (settings : Settings) :
    proceed tool env o.withoutSettings settings = proceed tool env o settings := by
  have hdir : o.withoutSettings.outDir = o.outDir := by
    rw [Options.outDir, value?_withoutSettings, if_pos rfl, Options.outDir]
  unfold proceed showDemo renderDemo
  rw [hdir]
  rfl

/-! ### Runs that leave the settings files alone -/

/-- Without a switch for it nothing is stored. -/
theorem run_storeSettings_of_not (hsave : o.has .save = false) (hclear : o.has .clear = false)
    (t : FileTree) : (storeSettings env o).run.run t = (.ok (), t) := by
  simp only [storeSettings, hsave, hclear]
  rfl

/-- The settings of the two files with those of the command line laid over them. -/
theorem run_effectiveSettings (hclear : o.has .clear = false)
    (huser : t.Holds env.globalSettingsPath userText)
    (hhere : t.Holds localSettingsPath hereText) :
    (effectiveSettings env o).run.run t =
      (.ok (((Settings.ofFile userText).union (Settings.ofFile hereText)).union o.settings),
        t) := by
  rw [effectiveSettings, if_neg (by simp [hclear]), run_get_bind]
  simp only [Settings.load_of_holds huser, Settings.load_of_holds hhere, orFail]
  rfl

/-- A run that leaves the settings files alone goes on with what is laid over what. -/
theorem run_eq_proceed (hsave : o.has .save = false) (hclear : o.has .clear = false)
    (huser : t.Holds env.globalSettingsPath userText)
    (hhere : t.Holds localSettingsPath hereText) :
    (report (execute tool env o)).run t =
      (report (proceed tool env o
        (((Settings.ofFile userText).union (Settings.ofFile hereText)).union
          o.settings))).run t := by
  rw [run_report_execute, prepare, run_bind, run_storeSettings_of_not hsave hclear]
  dsimp only
  rw [run_effectiveSettings hclear huser hhere]

/-! ### Runs that clear the settings -/

theorem union_empty (s : Settings) : Settings.union {} s = s := by
  cases s
  simp [Settings.union]

/-- A run that clears the settings goes on with those of the command line. -/
theorem run_eq_of_clear (hclear : o.has .clear) (t : FileTree) :
    (report (execute tool env o)).run t =
      (report (do quietly (storeSettings env o); proceed tool env o o.settings)).run t := by
  have heffective : effectiveSettings env o = pure o.settings := by
    simp only [effectiveSettings, hclear, if_true, union_empty]
  rw [run_report_execute, prepare, run_bind, heffective, run_report, run_quietly_bind]
  rcases (storeSettings env o).run.run t with ⟨_ | _, t'⟩
  · rfl
  · exact run_report _ t'

/-! ### What the file of the user held -/

/-- What comes of storing settings does not depend on the file in their place. -/
theorem run_storeSettings_congr (hswitch : o.has .save ∨ o.has .clear)
    (hl : t₁.locate env.globalSettingsPath = .ok l) (h₁ : t₁.node? l ≠ some .directory)
    (h₂ : t₂.node? l ≠ some .directory) (herase : t₁.erase l = t₂.erase l)
    (hexecutable : t₁.isExecutable l = t₂.isExecutable l) :
    (storeSettings env o).run.run t₁ = (storeSettings env o).run.run t₂ := by
  have hl₂ := FileTree.locate_of_erase_eq herase hl h₁
  unfold storeSettings
  dsimp only
  by_cases hclear : o.has .clear
  · -- both trees are without the file from then on
    rw [if_pos hclear, run_bind, run_bind, run_adapt, run_adapt, Settings.run_clear hl h₁,
      Settings.run_clear hl₂ h₂, herase]
  · -- both trees have the same file from then on
    have hsave : o.has .save := hswitch.resolve_right hclear
    rw [if_neg hclear, if_pos hsave, run_adapt, run_adapt, Settings.run_save hl h₁,
      Settings.run_save hl₂ h₂, FileTree.put_eq_of_erase_eq herase, hexecutable]

/-- Whatever comes of storing the settings decides what comes of all that is done first. -/
theorem run_prepare_congr (hstore : (storeSettings env o).run.run t₁ =
    (storeSettings env o).run.run t₂) :
    (prepare env o).run.run t₁ = (prepare env o).run.run t₂ := by
  rw [prepare, run_bind, run_bind, hstore]

/-! ### Accepted command lines -/

/-- The settings of a run, which goes on with them and with options that have none left. If
    none are to be saved or cleared, each is that of the command line if given, else that in
    the text of the file of the working directory, else that in the text of the file of the
    user. If they are to be cleared, those of the command line are used, whatever the files
    hold. If they are to be saved or cleared, nothing depends on what was in the file of the
    user: not the settings used, not what is seen of the run, and not the files after it. -/
theorem settings_of_run (tool : Tool) (env : Environment) (args : List String) (o : Options)
    (hparse : parse args = .ok (.run o)) :
    o.withoutSettings.settings = {} ∧
    (o.has .save = false → o.has .clear = false → ∀ t userText hereText,
      t.Holds env.globalSettingsPath userText → t.Holds localSettingsPath hereText →
      let user := Settings.ofFile userText
      let here := Settings.ofFile hereText
      (run tool env args).run t = (report (proceed tool env o.withoutSettings
        { program := o.settings.program <|> here.program <|> user.program
          library := o.settings.library <|> here.library <|> user.library
          format := o.settings.format <|> here.format <|> user.format
          params := o.settings.params <|> here.params <|> user.params })).run t) ∧
    (o.has .clear → ∀ t, (run tool env args).run t =
      (report (do
        quietly (storeSettings env o)
        proceed tool env o.withoutSettings o.settings)).run t) ∧
    (o.has .save ∨ o.has .clear → ∀ t₁ t₂ l, t₁.locate env.globalSettingsPath = .ok l →
      t₁.node? l ≠ some .directory → t₂.node? l ≠ some .directory →
      t₁.erase l = t₂.erase l → t₁.isExecutable l = t₂.isExecutable l →
      (prepare env o).run.run t₁ = (prepare env o).run.run t₂ ∧
        (run tool env args).run t₁ = (run tool env args).run t₂) := by
  simp only [run_of_parse_eq_run hparse, proceed_withoutSettings]
  refine ⟨settings_withoutSettings o, ?alone, ?cleared, ?independent⟩
  case alone =>
    intro hsave hclear t userText hereText huser hhere
    exact run_eq_proceed hsave hclear huser hhere
  case cleared =>
    intro hclear t
    exact run_eq_of_clear hclear t
  case independent =>
    intro hswitch t₁ t₂ l hl h₁ h₂ herase hexecutable
    -- the file has been taken away or written anew before any settings are read
    have hprepare := run_prepare_congr
      (run_storeSettings_congr hswitch hl h₁ h₂ herase hexecutable)
    refine ⟨hprepare, ?_⟩
    rw [run_report_execute, run_report_execute, hprepare]

/-- A tool that prints how it is started, and how the pic file begins after its first line. -/
def tellingTool : Tool := fun i => do
  let files ← get
  let source := (i.args.getLast?.map files.target).bind files.contents?
  let start := " ".intercalate (i.program :: i.args.take 1) ++ "\n"
  return .ended (.code 0) (start.toUTF8 ++ (source.getD .empty).extract 4 26) .empty

/-- A user whose settings are below the directory for configurations. -/
def configured : Environment where
  bindings := [("XDG_CONFIG_HOME", "/home")]

/-- The settings file of the user, that of the working directory, and what they name: a macro
    library and parameters. -/
def layered : FileTree where
  entries := [(["home"], .directory), (["home", "sequenceplot"], .directory),
    (["home", "sequenceplot", "config"],
      .file "--format png --library u.pic --params q.json".toUTF8 false),
    ([".sequenceplotrc"], .file "--pic2plot r --format=gif".toUTF8 false),
    (["u.pic"], .file .empty false),
    (["q.json"], .file "\x7b\"boxHeight\": 2\x7d".toUTF8 false), (["tmp"], .directory)]

/-- The tool is that of the command line, the format that of the working directory, and the
    library and the parameters are those of the user. The settings of neither file count in
    a run that clears them, and what the file of the user held does not count in one that
    saves others. -/
theorem settings_of_layered_runs :
    let layeredRun := (run tellingTool configured
      ["--pic2plot", "p", "authentication"]).run layered
    let clearingRun := (run tellingTool configured
      ["--clear", "--pic2plot", "p", "--library", "u.pic", "authentication"]).run layered
    let savingRun := (run tellingTool configured
      ["--save", "--library", "u.pic", "authentication"]).run
    layeredRun.2.contents? ["authentication.gif"] =
        some "p -Tgif\ncopy \"u.pic\";\nboxht=2;".toUTF8 ∧
      clearingRun.2.contents? ["authentication.svg"] =
        some "p -Tsvg\ncopy \"u.pic\";\nboxht=0.".toUTF8 ∧
      savingRun layered = savingRun (layered.erase ["home", "sequenceplot", "config"]) ∧
      (savingRun layered).2.contents? ["authentication.gif"] =
        some "r -Tgif\ncopy \"u.pic\";\nboxht=0.".toUTF8 := by
  have hpath : configured.globalSettingsPath = "/home/sequenceplot/config" := by decide +kernel
  have hl : layered.locate configured.globalSettingsPath =
      .ok ["home", "sequenceplot", "config"] := by
    rw [hpath]
    rfl
  refine ⟨?layered, ?cleared, ?saved⟩
  case layered =>
    have huser : layered.Holds configured.globalSettingsPath
        (some "--format png --library u.pic --params q.json") :=
      FileTree.readText_of_node? hl rfl
    have hhere : layered.Holds localSettingsPath (some "--pic2plot r --format=gif") :=
      FileTree.readText_of_node? (l := [".sequenceplotrc"]) rfl rfl
    rw [(settings_of_run tellingTool configured ["--pic2plot", "p", "authentication"] _ rfl).2.1
      rfl rfl layered _ _ huser hhere]
    decide +kernel
  case cleared =>
    rw [(settings_of_run tellingTool configured
      ["--clear", "--pic2plot", "p", "--library", "u.pic", "authentication"] _ rfl).2.2.1
      rfl layered]
    decide +kernel
  case saved =>
    refine ⟨?_, by decide +kernel⟩
    exact ((settings_of_run tellingTool configured
      ["--save", "--library", "u.pic", "authentication"] _ rfl).2.2.2 (.inl rfl) layered
      (layered.erase ["home", "sequenceplot", "config"]) ["home", "sequenceplot", "config"] hl
      (by decide) (by decide) rfl rfl).2

end CommandLine

end Lifelines
