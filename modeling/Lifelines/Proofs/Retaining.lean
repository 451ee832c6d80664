import Lifelines.Proofs.Locations
import Lifelines.Proofs.Requests
import Lifelines.Settings.File
import Mathlib.Data.Set.Image

/-!
# Files left as they were

A computation may change a file tree even if it fails. Which files it leaves as they
were is told by the requests that it is made of: a request changes the file that its path
leads to and no other, and one that fails changes none. A directory that is made holds
nothing and takes no file away.

* `FileTree.Retains`: a later tree has the files of an earlier one, those at some
  locations apart;
* `Keeps`: a computation that changes no files, those apart that some paths lead to;
* `FailsCleanly`: a computation that changes no files if it fails;
* `Keeps.bind`, `Keeps.tryCatch`, ...: one rule for each way of putting computations
  together, and one for each request.
-/

namespace Lifelines

/-! ### Trees -/

namespace FileTree

/-- The file at a location: its contents and whether it may be run. -/
def file? (t : FileTree) (l : Location) : Option (ByteArray × Bool) :=
  match t.node? l with
  | some (.file contents executable) => some (contents, executable)
  | _ => none

/-- The later tree `t'` has the files of `t` and no others, but perhaps at the locations
    in `spared`. -/
structure Retains (spared : Set Location) (t t' : FileTree) : Prop where
  here : t'.here = t.here
  file : ∀ l ∉ spared, t'.file? l = t.file? l

variable {spared spared' : Set Location} {t t' t'' : FileTree} {l m : Location} {node : Node}

theorem file?_congr (h : t'.node? l = t.node? l) : t'.file? l = t.file? l := by
  rw [file?, file?, h]

theorem file?_of_node?_eq_none (h : t.node? l = none) : t.file? l = none := by
  rw [file?, h]

theorem file?_put_self {contents : ByteArray} {executable : Bool} (hl : l ≠ []) :
    (t.put l (.file contents executable)).file? l = some (contents, executable) := by
  rw [file?, node?_put_self hl]

theorem contents?_eq (t : FileTree) (l : Location) : t.contents? l = (t.file? l).map Prod.fst := by
  rw [contents?, file?]
  rcases t.node? l with _ | _ | _ <;> rfl

/-- Where a file is, no directory is. -/
theorem node?_ne_directory_of_file? {file : ByteArray × Bool} (h : t.file? l = some file) :
    t.node? l ≠ some .directory := by
  intro hnode
  rw [file?, hnode] at h
  cases h

theorem target_congr (h : t'.here = t.here) : t'.target = t.target := by
  funext path
  rw [target, target, h]

theorem Retains.refl (spared : Set Location) (t : FileTree) : Retains spared t t :=
  ⟨rfl, fun _ _ => rfl⟩

/-- What is retained twice is retained. -/
theorem Retains.trans (h : Retains spared t t') (h' : Retains spared t' t'') :
    Retains spared t t'' where
  here := h'.here.trans h.here
  file l hl := (h'.file l hl).trans (h.file l hl)

/-- Sparing more locations demands less. -/
theorem Retains.mono (h : Retains spared t t') (hsub : spared ⊆ spared') :
    Retains spared' t t' where
  here := h.here
  file l hl := h.file l fun hmem => hl (hsub hmem)

/-- Putting something somewhere retains all other files. -/
theorem retains_put (t : FileTree) (l : Location) (node : Node) :
    Retains {l} t (t.put l node) where
  here := rfl
  file _ hm := file?_congr (node?_put_of_ne hm)

theorem retains_erase (t : FileTree) (l : Location) : Retains {l} t (t.erase l) where
  here := rfl
  file _ hm := file?_congr (node?_erase_of_ne hm)

/-- A new directory takes the place of no file. -/
theorem retains_put_directory (hl : t.node? l = none) : Retains ∅ t (t.put l .directory) where
  here := rfl
  file m _ := by
    by_cases hm : m = l
    · subst hm
      have hne : m ≠ [] := ne_nil_of_node?_ne (t := t) (by simp [hl])
      rw [file?_of_node?_eq_none hl, file?, node?_put_self hne]
    · exact file?_congr (node?_put_of_ne hm)

/-- What was put where nothing was, and is taken away after other changes, is as if it had
    never been there. -/
theorem Retains.erase_of_put (hl : t.node? l = none) (h : Retains ∅ (t.put l node) t') :
    Retains ∅ t (t'.erase l) where
  here := h.here
  file m _ := by
    by_cases hm : m = l
    · subst hm
      have hne : m ≠ [] := ne_nil_of_node?_ne (t := t) (by simp [hl])
      rw [file?_of_node?_eq_none hl, file?_of_node?_eq_none (node?_erase_self hne)]
    · calc (t'.erase l).file? m = t'.file? m := file?_congr (node?_erase_of_ne hm)
        _ = (t.put l node).file? m := h.file m (Set.notMem_empty m)
        _ = t.file? m := file?_congr (node?_put_of_ne hm)

end FileTree

/-! ### Computations -/

section

variable {ε ε' α β : Type}

/-- Whatever comes of the computation, all files are left as they were, but perhaps where
    the paths in `spared` lead. -/
def Keeps (spared : Set String) (x : ExceptT ε (StateM FileTree) α) : Prop :=
  ∀ t : FileTree, FileTree.Retains (t.target '' spared) t (x.run.run t).2

/-- If the computation fails, all files are left as they were. -/
def FailsCleanly (x : ExceptT ε (StateM FileTree) α) : Prop :=
  ∀ t e t', x.run.run t = (.error e, t') → FileTree.Retains ∅ t t'

variable {spared spared' : Set String} {x : ExceptT ε (StateM FileTree) α}
  {f : α → ExceptT ε (StateM FileTree) β} {g : ε → ExceptT ε (StateM FileTree) α}

theorem keeps_empty_iff :
    Keeps ∅ x ↔ ∀ t : FileTree, FileTree.Retains ∅ t (x.run.run t).2 := by
  simp only [Keeps, Set.image_empty]

theorem Keeps.mono (h : Keeps spared x) (hsub : spared ⊆ spared') : Keeps spared' x :=
  fun t => (h t).mono (Set.image_mono hsub)

theorem Keeps.of_run (h : ∀ t, (x.run.run t).2 = t) : Keeps spared x := fun t => by
  rw [h]
  exact .refl _ t

/-- What is kept of the files that there are then is kept of those before. -/
theorem Keeps.after {t t' : FileTree} (hx : Keeps spared x)
    (h : FileTree.Retains (t.target '' spared) t t') :
    FileTree.Retains (t.target '' spared) t (x.run.run t').2 := by
  have ht' := hx t'
  rw [FileTree.target_congr h.here] at ht'
  exact h.trans ht'

/-- One computation after another spares what either of them may change. -/
theorem Keeps.bind (hx : Keeps spared x) (hf : ∀ a, Keeps spared (f a)) :
    Keeps spared (x >>= f) := by
  intro t
  have ht := hx t
  rw [run_bind]
  -- what fails stops there, and what does not goes on from the tree it left
  rcases h : x.run.run t with ⟨_ | a, t₁⟩ <;> rw [h] at ht
  · exact ht
  · exact (hf a).after ht

/-- A computation for the case of failure spares what either of them may change. -/
theorem Keeps.tryCatch (hx : Keeps spared x) (hg : ∀ e, Keeps spared (g e)) :
    Keeps spared (tryCatch x g) := by
  intro t
  have ht := hx t
  rw [run_tryCatch]
  rcases h : x.run.run t with ⟨e | _, t₁⟩ <;> rw [h] at ht
  · exact (hg e).after ht
  · exact ht

theorem Keeps.adapt (hx : Keeps spared x) (g : ε → ε') : Keeps spared (x.adapt g) := fun t => by
  rw [run_adapt]
  exact hx t

/-- A computation that keeps all files may come before one that fails cleanly. -/
theorem FailsCleanly.bind (hx : Keeps ∅ x) (hf : ∀ a, FailsCleanly (f a)) :
    FailsCleanly (x >>= f) := by
  intro t e t' ht'
  have ht := keeps_empty_iff.1 hx t
  rw [run_bind] at ht'
  rcases h : x.run.run t with ⟨_ | a, t₁⟩ <;> rw [h] at ht ht'
  · cases ht'
    exact ht
  · exact ht.trans (hf a t₁ e t' ht')

/-- Changing the answer afterwards does not fail. -/
theorem FailsCleanly.bind_pure (hx : FailsCleanly x) (k : α → β) :
    FailsCleanly (x >>= fun a => pure (k a)) := by
  intro t e t' ht'
  rw [run_bind] at ht'
  rcases h : x.run.run t with ⟨_ | a, t₁⟩ <;> rw [h] at ht' <;> cases ht'
  exact hx t _ _ h

/-- Another error leaves the same files. -/
theorem FailsCleanly.adapt (hx : FailsCleanly x) (g : ε → ε') : FailsCleanly (x.adapt g) := by
  intro t e t' ht'
  rw [run_adapt] at ht'
  rcases h : x.run.run t with ⟨_ | a, t₁⟩ <;> rw [h] at ht' <;> cases ht'
  exact hx t _ _ h

end

/-! ### Requests -/

namespace Filing

/-- Writing changes at most the file that is written. -/
theorem keeps_write (path : String) (contents : ByteArray) :
    Keeps {path} (write path contents) := by
  intro t
  rw [run_write, Set.image_singleton]
  rcases hl : t.locate path with _ | l
  · exact .refl _ t
  · obtain rfl := FileTree.eq_target_of_locate hl
    dsimp only
    rcases t.node? (t.target path) with _ | _ | _
    · exact FileTree.retains_put ..
    · exact .refl _ t
    · exact FileTree.retains_put ..

/-- Writing that fails has not begun. -/
theorem failsCleanly_write (path : String) (contents : ByteArray) :
    FailsCleanly (write path contents) := by
  intro t e t' h
  rw [run_write] at h
  rcases hl : t.locate path with _ | l <;> simp only [hl] at h
  · cases h
    exact .refl _ t
  · rcases hnode : t.node? l with _ | _ | _ <;> simp only [hnode] at h <;> cases h
    exact .refl _ t

/-- Removing changes at most the file that is removed. -/
theorem keeps_remove (path : String) : Keeps {path} (remove path) := by
  intro t
  rw [run_remove, Set.image_singleton]
  rcases hl : t.locate path with _ | l
  · exact .refl _ t
  · obtain rfl := FileTree.eq_target_of_locate hl
    dsimp only
    rcases t.node? (t.target path) with _ | _ | _
    · exact .refl _ t
    · exact .refl _ t
    · exact FileTree.retains_erase ..

/-- Making a directory changes no file. -/
theorem keeps_makeDirectory (path : String) : Keeps ∅ (makeDirectory path) := by
  rw [keeps_empty_iff]
  intro t
  rw [run_makeDirectory]
  rcases t.locate (withoutEndSlash path) with _ | l
  · exact .refl _ t
  · dsimp only
    rcases hnode : t.node? l with _ | _
    · -- nothing was there, so no file is covered by the directory
      exact FileTree.retains_put_directory hnode
    · exact .refl _ t

theorem keeps_ensureDirectory (path : String) : Keeps ∅ (ensureDirectory path) := by
  refine (keeps_makeDirectory path).tryCatch fun e => .bind (.of_run fun _ => rfl) fun files => ?_
  split <;> exact .of_run fun _ => rfl

/-- Directories are made from the outermost one that is missing on, so after those that
    lead to them. -/
theorem keeps_makeFrom (paths : List String) : Keeps ∅ (makeFrom paths) := by
  induction paths with
  | nil => exact .of_run fun _ => rfl
  | cons path parents ih =>
    refine (keeps_ensureDirectory path).tryCatch fun e => ?_
    split
    · -- the directories above are made first, and then this one is tried again
      exact ih.bind fun _ => keeps_ensureDirectory path
    · exact .of_run fun _ => rfl

theorem keeps_makeDirectories (path : String) : Keeps ∅ (makeDirectories path) :=
  keeps_makeFrom (ancestors path)

end Filing

namespace Settings

/-- Saving settings changes at most their file. -/
theorem keeps_save (path : String) (s : Settings) : Keeps {path} (save path s) := by
  rw [save]
  split
  · next parent _ =>
    exact .bind (((Filing.keeps_makeDirectories parent).mono (Set.empty_subset _)).adapt _)
      fun _ => (Filing.keeps_write _ _).adapt _
  · exact (Filing.keeps_write _ _).adapt _

/-- Clearing settings changes at most their file. -/
theorem keeps_clear (path : String) : Keeps {path} (clear path) := by
  refine .bind (.of_run fun _ => rfl) fun files => ?_
  split
  · exact (Filing.keeps_remove path).adapt _
  · exact .of_run fun _ => rfl

end Settings

end Lifelines
