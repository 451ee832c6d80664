import Lifelines.Proofs.Naming
import Lifelines.Proofs.Retaining
import Lifelines.Render
import Mathlib.Data.List.Nodup
import Mathlib.Data.List.Perm.Subperm

/-!
# Scratch files

A scratch file takes the place of no file: its path leads nowhere before, as of one path
more than there are entries in a tree one leads nowhere. It is taken away where it was
put, so that after it was used the files are those before, and a document that is not
rendered leaves no file.

* `Renderer.leads_freeScratchPath`: the path of a scratch file is free;
* `Renderer.keeps_withScratchFile`: a scratch file is gone after it was used;
* `Renderer.failsCleanly_render`: no image, no file.
-/

namespace Lifelines

namespace FileTree

variable {t : FileTree} {l : Location} {path : String}

/-- What a path leads to is in an entry, unless it is the root. -/
theorem mem_entries_of_leads (h : t.leads path = true) (hne : t.target path ≠ []) :
    t.target path ∈ t.entries.map Prod.fst := by
  by_contra hmem
  have hnode : t.node? (t.target path) = none := by
    rw [node?, if_neg (by simpa using hne), List.lookup_eq_none_iff]
    intro entry hentry
    have hfst : entry.1 ≠ t.target path := fun heq => hmem (heq ▸ List.mem_map_of_mem hentry)
    simpa using hfst.symm
  rcases hl : t.locate path with e | l
  · simp [leads, lookup, hl, bind, Except.bind] at h
  · obtain rfl := eq_target_of_locate hl
    simp [leads_of_locate hl, hnode] at h

end FileTree

namespace Renderer

/-! ### Paths -/

/-- The name of a scratch file. -/
def scratchName (n : Nat) : String :=
  "sequenceplot-" ++ toString n ++ ".pic"

/-- Distinct numbers give distinct scratch directory names. -/
theorem scratchName_injective : Function.Injective scratchName := by
  intro m n h
  have hl : Nat.toDigits 10 m = Nat.toDigits 10 n := by
    simpa [scratchName] using congrArg String.toList h
  apply Nat.repr_injective
  rw [← String.toList_inj, Nat.toList_repr, Nat.toList_repr, hl]

theorem slash_not_mem_scratchName (n : Nat) : '/' ∉ (scratchName n).toList := by
  simp only [scratchName, String.toList_append, List.mem_append, not_or]
  exact ⟨⟨by decide, fun h => absurd (Text.isDigit_of_mem_toString h) (by decide)⟩, by decide⟩

/-- The scratch files are all in one directory. -/
theorem target_scratchPath (t : FileTree) (n : Nat) :
    t.target (scratchPath n) = ["tmp", scratchName n] := by
  have hpath : scratchPath n = "/tmp" ++ "/" ++ scratchName n := by
    have hstart : "/tmp" ++ "/" ++ "sequenceplot-" = "/tmp/sequenceplot-" := by simp
    rw [scratchName, ← String.append_assoc, ← String.append_assoc, hstart]
    rfl
  have hlength : 2 < (scratchName n).length := by
    have hstart : "sequenceplot-".length = 13 := rfl
    rw [scratchName, String.length_append, String.length_append, hstart]
    omega
  rw [hpath, FileTree.target, Path.components_append, Path.isAbsolute_append (by decide),
    Path.components_of_not_mem (slash_not_mem_scratchName n), List.foldl_append,
    List.foldl_cons, List.foldl_nil, FileTree.follow_name hlength]
  rfl

/-- Of one path more than there are entries, one leads nowhere. -/
theorem exists_free (t : FileTree) :
    ∃ n ∈ List.range (t.entries.length + 1), t.leads (scratchPath n) = false := by
  by_contra hall
  have hmem : ∀ n ∈ List.range (t.entries.length + 1), t.leads (scratchPath n) = true := by
    intro n hn
    by_contra hleads
    exact hall ⟨n, hn, by simpa using hleads⟩
  -- all these locations would be those of entries, which are fewer
  have hsub : (List.range (t.entries.length + 1)).map (fun n => t.target (scratchPath n)) ⊆
      t.entries.map Prod.fst := by
    intro l hl
    obtain ⟨n, hn, rfl⟩ := List.mem_map.1 hl
    exact FileTree.mem_entries_of_leads (hmem n hn) (by simp [target_scratchPath])
  have hnodup : ((List.range (t.entries.length + 1)).map
      fun n => t.target (scratchPath n)).Nodup := by
    refine List.Nodup.map (fun m n h => ?_) List.nodup_range
    simpa [target_scratchPath, scratchName_injective.eq_iff] using h
  have hlength := (List.subperm_of_subset hnodup hsub).length_le
  simp only [List.length_map, List.length_range] at hlength
  omega

/-- Nothing stands at the path picked for the scratch directory: among one more name than the
    tree has entries, one is free. -/
theorem leads_freeScratchPath (t : FileTree) : t.leads (freeScratchPath t) = false := by
  obtain ⟨n, hn, hfree⟩ := exists_free t
  simp only [freeScratchPath]
  rcases hfind : (List.range (t.entries.length + 1)).find?
    (fun n => !t.leads (scratchPath n)) with _ | m
  · -- the search cannot fail, as one of the names it tries is free
    have hleads := List.find?_eq_none.1 hfind n hn
    simp [hfree] at hleads
  · simpa using List.find?_some hfind

/-! ### Use -/

/-- What is taken away in the end is so whether what came before has failed or not. -/
theorem run_then_erase {α : Type} (x : Rendering α) (l : Location) (t : FileTree) :
    (do
      let result ← tryCatch (Except.ok <$> x) fun e => return .error e
      modify fun files => files.erase l
      MonadExcept.ofExcept result : Rendering α).run.run t =
      ((x.run.run t).1, (x.run.run t).2.erase l) := by
  have hmap : (Except.ok (ε := RenderError) <$> x).run.run t =
      ((x.run.run t).1.map .ok, (x.run.run t).2) := by
    rw [ExceptT.run_map, StateT.run_map]
    rfl
  rw [run_bind, run_tryCatch, hmap]
  rcases x.run.run t with ⟨_ | a, t'⟩ <;> rfl

theorem node?_of_locate_freeScratchPath {t : FileTree} {l : Location}
    (hl : t.locate (freeScratchPath t) = .ok l) : t.node? l = none := by
  simpa [FileTree.leads_of_locate hl] using leads_freeScratchPath t

/-- A scratch file is a new one, and it is taken away after it was used. -/
theorem run_withScratchFile {α : Type} (contents : ByteArray) (use : String → Rendering α)
    (t : FileTree) : (withScratchFile contents use).run.run t =
      match t.locate (freeScratchPath t) with
      | .error e => (.error (.io e), t)
      | .ok l =>
        let used := (use (freeScratchPath t)).run.run (t.put l (.file contents false))
        (used.1, used.2.erase l) := by
  rw [withScratchFile, run_get_bind]
  dsimp only
  rw [run_bind, run_adapt, Filing.run_locate]
  rcases hl : t.locate (freeScratchPath t) with e | l
  · rfl
  · -- nothing is at the free path, so writing there puts a new file
    have hwrite : (Filing.write (freeScratchPath t) contents).run.run t =
        (.ok (), t.put l (.file contents false)) := by
      rw [Filing.run_write]
      simp only [hl, node?_of_locate_freeScratchPath hl]
    simp only [Except.mapError]
    rw [run_bind, run_adapt_of_run hwrite]
    dsimp only
    rw [run_then_erase]

/-- A scratch file is put where nothing was and is taken away from there. -/
theorem keeps_withScratchFile {α : Type} {contents : ByteArray} {use : String → Rendering α}
    (huse : ∀ path, Keeps ∅ (use path)) : Keeps ∅ (withScratchFile contents use) := by
  rw [keeps_empty_iff]
  intro t
  rw [run_withScratchFile]
  rcases hl : t.locate (freeScratchPath t) with e | l
  · exact .refl _ t
  · exact .erase_of_put (node?_of_locate_freeScratchPath hl) (keeps_empty_iff.1 (huse _) _)

end Renderer

/-! ### Rendering -/

/-- Whatever a tool is started with, it changes no files. -/
def Tool.KeepsFiles (tool : Tool) : Prop :=
  ∀ i t, FileTree.Retains ∅ t ((tool i).run t).2

namespace Renderer

variable {r : Renderer} {tool : Tool}

/-- Running the tool on a source, and reading what it answers, changes no file when the tool
    keeps files. -/
theorem keeps_run (htool : tool.KeepsFiles) (source : String)
    (format : OutputFormat) : Keeps ∅ (r.run tool source format) := by
  have hstart : Keeps ∅ (tool (r.invocation source format) : Rendering ToolEnd) := by
    rw [keeps_empty_iff]
    exact htool _
  refine hstart.bind fun ending => ?_
  cases ending with
  | notStarted e => exact .of_run fun _ => rfl
  | ended status stdout stderr =>
    dsimp only
    split
    · exact .of_run fun _ => rfl
    · split <;> exact .of_run fun _ => rfl

/-- A document that is not rendered leaves no file. -/
theorem failsCleanly_render (hsource : r.keepSource = false)
    (htool : tool.KeepsFiles) {doc : Document} {target : String}
    {format : OutputFormat} : FailsCleanly (r.render tool doc target format) := by
  unfold render
  simp only [hsource, Bool.false_eq_true, if_false]
  -- the image is written last, and only if all went well before
  refine .bind (keeps_withScratchFile fun path => keeps_run htool path format) fun bytes => ?_
  exact ((Filing.failsCleanly_write _ bytes).adapt _).bind_pure _

end Renderer

end Lifelines
