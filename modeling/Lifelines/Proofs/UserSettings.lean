import Lifelines.Environment
import Lifelines.Proofs.Locations
import Lifelines.Proofs.Requests
import Lifelines.Settings.File

/-!
# The settings file of the user

The settings file of the user is `config` in a directory of its own, or that of the
working directory. Where its path leads anywhere, the directory is there, so that neither
removing nor writing the file touches anything else: what there is afterwards does not
depend on what the file held.

* `Environment.exists_globalSettingsPath`: the path of the file;
* `Settings.run_clear`, `Settings.run_save`: settings cleared and saved where the path of
  the file leads.
-/

namespace Lifelines

/-! ### Paths -/

namespace Path

variable {cs body name : List Char} {c d : Char}

theorem length_lead_le (cs : List Char) : (lead cs).length ≤ 1 := by
  unfold lead
  split <;> simp

theorem lead_eq_take (cs : List Char) : lead cs = cs.take (lead cs).length := by
  unfold lead
  split <;> simp

/-- What ends in neither a slash nor a dot has nothing idle at its end. -/
theorem dropIdle_cons (hslash : c ≠ '/') (hdot : c ≠ '.') (cs : List Char) :
    dropIdle (c :: cs) = c :: cs := by
  unfold dropIdle
  split <;> simp_all

/-- The last component, as long as it is not empty, is dropped with its slash. -/
theorem dropLast_append (hname : '/' ∉ name) (cs : List Char) :
    dropLast (name ++ '/' :: cs) = cs := by
  have hall : ∀ c ∈ name, (decide (c ≠ '/')) = true := by
    rintro c hc
    simpa using fun h : c = '/' => hname (h ▸ hc)
  rw [dropLast, List.dropWhile_append_of_pos hall]
  rfl

/-- A name below a path is in the directory with that path, as long as neither ends in a
    slash or a dot. -/
theorem parentChars?_append (hbody : body ≠ []) (hc : c ≠ '/' ∧ c ≠ '.') (hname : '/' ∉ name)
    (hd : d ≠ '/' ∧ d ≠ '.') :
    parentChars? (body ++ [c] ++ '/' :: (name ++ [d])) = some (body ++ [c]) := by
  generalize hcs : body ++ [c] ++ '/' :: (name ++ [d]) = cs
  have hlead : (lead cs).length ≤ body.length :=
    Nat.le_trans (length_lead_le cs) (List.length_pos_iff.2 hbody)
  generalize hk : (lead cs).length = k at hlead
  have hstart : lead cs = body.take k := by
    rw [lead_eq_take, hk, ← hcs, List.append_assoc, List.take_append_of_le_length hlead]
  -- the parent is found from the end: the name and its slash are dropped
  have hrest : (cs.drop k).reverse =
      d :: name.reverse ++ '/' :: (c :: (body.drop k).reverse) := by
    rw [← hcs, List.append_assoc, List.drop_append_of_le_length hlead]
    simp
  have hdropped : '/' ∉ d :: name.reverse := by
    simpa [hd.1.symm] using hname
  rw [parentChars?]
  simp only [hk, hrest, List.cons_append, dropIdle_cons hd.1 hd.2]
  rw [← List.cons_append, dropLast_append hdropped, dropIdle_cons hc.1 hc.2, hstart]
  simp [← List.append_assoc]

/-- A relative path stands at the end of what it is joined to. -/
theorem exists_join (base : String) {next : String} (h : isAbsolute next = false) :
    ∃ start, join base next = start ++ next := by
  simp only [join, h, Bool.false_eq_true, if_false]
  split
  · exact ⟨base, rfl⟩
  · exact ⟨base ++ "/", rfl⟩

end Path

namespace Environment

/-- The settings of the user are in a directory of their own, or where those of the working
    directory are. -/
theorem exists_globalSettingsPath (env : Environment) :
    env.globalSettingsPath = localSettingsPath ∨
      ∃ start, env.globalSettingsPath = start ++ "sequenceplot" ++ "/" ++ "config" := by
  have hjoin (base : String) : ∃ start, Path.join (Path.join base "sequenceplot") "config" =
      start ++ "sequenceplot" ++ "/" ++ "config" := by
    obtain ⟨start, hstart⟩ := Path.exists_join base
      (show Path.isAbsolute "sequenceplot" = false by decide)
    refine ⟨start, ?_⟩
    rw [hstart, Path.join]
    simp [Path.isAbsolute, Path.endsInSlash]
  -- without either of the variables the settings are those of the working directory
  unfold globalSettingsPath
  split
  · exact .inr (hjoin _)
  · exact .inr (hjoin _)
  · exact .inl rfl

end Environment

namespace Settings

theorem neededDirectory?_localSettingsPath : neededDirectory? localSettingsPath = none := by
  decide +kernel

/-- The user's settings file needs the directory right above it. -/
theorem neededDirectory?_append (start : String) :
    neededDirectory? (start ++ "sequenceplot" ++ "/" ++ "config") =
      some (start ++ "sequenceplot") := by
  have hparent : Path.parentChars? (start ++ "sequenceplot" ++ "/" ++ "config").toList =
      some (start ++ "sequenceplot").toList := by
    have h : Path.parentChars? (start.toList ++ "sequenceplo".toList ++ ['t'] ++
        '/' :: ("confi".toList ++ ['g'])) = some (start.toList ++ "sequenceplo".toList ++ ['t']) :=
      Path.parentChars?_append (by simp) (by decide) (by decide) (by decide)
    simpa [String.toList_append] using h
  have hne : (start ++ "sequenceplot").isEmpty = false := by simp
  rw [neededDirectory?, Path.parent?, hparent]
  simp [hne]

end Settings

/-! ### Directories that are there -/

namespace Filing

variable {t : FileTree} {l : Location} {path : String}

theorem withoutEndSlash_append (start : String) :
    withoutEndSlash (start ++ "sequenceplot") = start ++ "sequenceplot" := by
  simp [withoutEndSlash]

/-- A path that is not empty is the first of its own ancestors. -/
theorem exists_ancestors (hne : path ≠ "") : ∃ parents, ancestors path = path :: parents := by
  rw [ancestors, ancestors.go, if_neg (by simpa using hne)]
  split
  · exact ⟨_, rfl⟩
  · exact ⟨[], rfl⟩

/-- Nothing is done to make a directory that is there. -/
theorem run_makeDirectories_of_directory (hslash : withoutEndSlash path = path)
    (hl : t.locate path = .ok l) (hnode : t.node? l = some .directory) :
    (makeDirectories path).run.run t = (.ok (), t) := by
  have hmake : (makeDirectory path).run.run t = (.error .alreadyExists, t) := by
    rw [run_makeDirectory]
    simp only [hslash, hl, hnode]
  have hleads : t.leadsToDirectory path = true := by
    rw [FileTree.leadsToDirectory, FileTree.lookup_of_node? hl hnode]
  have hensure : (ensureDirectory path).run.run t = (.ok (), t) := by
    rw [ensureDirectory, run_tryCatch, hmake]
    dsimp only
    rw [run_get_bind]
    simp only [hleads, if_true]
    rfl
  obtain ⟨parents, hparents⟩ := exists_ancestors (FileTree.locate_eq_ok_iff.1 hl).1
  rw [makeDirectories, hparents, makeFrom, run_tryCatch, hensure]

end Filing

/-! ### Trees that differ at one location -/

namespace FileTree

variable {t t₁ t₂ : FileTree} {l m : Location} {node : Node} {path : String}

/-- Erasing an empty place changes nothing. -/
theorem erase_eq_self (h : t.node? l = none) : t.erase l = t := by
  have hne : l ≠ [] := ne_nil_of_node?_ne (t := t) (by simp [h])
  rw [node?, if_neg (by simpa using hne), List.lookup_eq_none_iff] at h
  have hentries : (t.entries.filter fun entry => entry.1 ≠ l) = t.entries := by
    rw [List.filter_eq_self]
    intro entry hentry
    have hother : l ≠ entry.1 := by simpa using h entry hentry
    simpa using hother.symm
  rw [erase, hentries]

theorem put_eq_of_erase_eq (h : t₁.erase l = t₂.erase l) : t₁.put l node = t₂.put l node := by
  rw [erase, erase, FileTree.mk.injEq] at h
  rw [put, put, h.1, h.2]

theorem node?_eq_of_erase_eq (h : t₁.erase l = t₂.erase l) (hm : m ≠ l) :
    t₁.node? m = t₂.node? m := by
  rw [← node?_erase_of_ne (t := t₁) hm, h, node?_erase_of_ne hm]

/-- Where a path leads does not depend on what is there, unless it is a directory. -/
theorem locate_of_erase_eq (h : t₁.erase l = t₂.erase l) (hl : t₁.locate path = .ok l)
    (hnode : t₁.node? l ≠ some .directory) : t₂.locate path = .ok l := by
  refine locate_mono (t := t₁) (congrArg here h).symm (fun m hm => ?_) hl
  have hne : m ≠ l := by
    rintro rfl
    exact hnode hm
  rwa [← node?_eq_of_erase_eq h hne]

end FileTree

/-! ### Requests for the file -/

namespace Settings

variable {t : FileTree} {l : Location} {path : String}

/-- Settings are cleared where their path leads. -/
theorem run_clear (hl : t.locate path = .ok l) (hnode : t.node? l ≠ some .directory) :
    (clear path).run.run t = (.ok (), t.erase l) := by
  rw [clear, run_get_bind]
  simp only [FileTree.leads_of_locate hl]
  rcases hfile : t.node? l with _ | _ | ⟨contents, executable⟩
  · rw [FileTree.erase_eq_self hfile]
    rfl
  · exact absurd hfile hnode
  · rw [Option.isSome_some, if_pos rfl, run_adapt, Filing.run_remove]
    simp only [hl, hfile]
    rfl

/-- Settings are saved where the path of the settings of the user leads, and nothing else has to
    be made for it. -/
theorem run_save {env : Environment} (hl : t.locate env.globalSettingsPath = .ok l)
    (hnode : t.node? l ≠ some .directory) (s : Settings) :
    (save env.globalSettingsPath s).run.run t =
      (.ok (), t.put l (.file s.toText.toUTF8 (t.isExecutable l))) := by
  have hwrite := Filing.run_write_of_locate hl hnode s.toText.toUTF8
  rcases env.exists_globalSettingsPath with hpath | ⟨start, hpath⟩
  · rw [hpath] at hwrite ⊢
    simp only [save, neededDirectory?_localSettingsPath]
    exact run_adapt_of_run hwrite _
  · rw [hpath] at hl hwrite ⊢
    -- as the path leads somewhere, the directory above the file is there
    obtain ⟨m, hm, hdirectory⟩ := FileTree.exists_of_locate_below (by simp) hl
    have hmake := Filing.run_makeDirectories_of_directory
      (Filing.withoutEndSlash_append start) hm hdirectory
    simp only [save, neededDirectory?_append]
    rw [run_bind, run_adapt_of_run hmake]
    exact run_adapt_of_run hwrite _

end Settings

end Lifelines
