import Lifelines.Files.Change

/-!
# What requests do

A computation that changes a state and may fail on the way is described by what its run
gives: an answer or an error, and the state after it. Each way of putting computations
together has one equation for its run, and so has each request that changes files.

* `run_bind`, `run_tryCatch`, `run_adapt`: computations put together;
* `exists_of_run_bind_eq_ok`: what has succeeded did so in its parts;
* `Filing.run_write`, `Filing.run_remove`, `Filing.run_makeDirectory`: the requests.
-/

namespace Lifelines

/-! ### Computations -/

section

variable {ε ε' σ α β : Type} {s s' : σ} {b : β}

/-- What is done first decides whether there is a second, and on what. -/
theorem run_bind (x : ExceptT ε (StateM σ) α) (f : α → ExceptT ε (StateM σ) β) (s : σ) :
    (x >>= f).run.run s =
      match x.run.run s with
      | (.ok a, s₁) => (f a).run.run s₁
      | (.error e, s₁) => (.error e, s₁) := by
  rw [ExceptT.run_bind, StateT.run_bind]
  rcases x.run.run s with ⟨reply, s₁⟩
  cases reply <;> rfl

/-- What is done with the state is done with the state that there is. -/
theorem run_get_bind (f : σ → ExceptT ε (StateM σ) β) (s : σ) :
    (get >>= f).run.run s = (f s).run.run s :=
  run_bind get f s

/-- What is done after a failure starts from what the failure has left. -/
theorem run_tryCatch (x : ExceptT ε (StateM σ) α) (g : ε → ExceptT ε (StateM σ) α) (s : σ) :
    (tryCatch x g).run.run s =
      match x.run.run s with
      | (.ok a, s₁) => (.ok a, s₁)
      | (.error e, s₁) => (g e).run.run s₁ := by
  have hrun : (tryCatch x g).run = x.run >>= fun
    | .ok a => pure (.ok a)
    | .error e => (g e).run := rfl
  rw [hrun, StateT.run_bind]
  rcases x.run.run s with ⟨reply, s₁⟩
  cases reply <;> rfl

/-- Another error changes nothing but the error. -/
theorem run_adapt (x : ExceptT ε (StateM σ) α) (g : ε → ε') (s : σ) :
    (x.adapt g).run.run s = ((x.run.run s).1.mapError g, (x.run.run s).2) := by
  rw [ExceptT.run_adapt, StateT.run_map]
  rfl

/-- A computation that succeeds does so in its parts. -/
theorem exists_of_run_bind_eq_ok {x : ExceptT ε (StateM σ) α} {f : α → ExceptT ε (StateM σ) β}
    (h : (x >>= f).run.run s = (.ok b, s')) :
    ∃ a s₁, x.run.run s = (.ok a, s₁) ∧ (f a).run.run s₁ = (.ok b, s') := by
  rw [run_bind] at h
  rcases hx : x.run.run s with ⟨_ | a, s₁⟩ <;> rw [hx] at h
  · cases h
  · exact ⟨a, s₁, rfl, h⟩

/-- What succeeds is not changed by what would have been done with an error. -/
theorem run_adapt_of_run {x : ExceptT ε (StateM σ) β} (h : x.run.run s = (.ok b, s'))
    (g : ε → ε') : (x.adapt g).run.run s = (.ok b, s') := by
  rw [run_adapt, h]
  rfl

/-- What succeeds with other errors succeeds with its own. -/
theorem run_of_run_adapt {x : ExceptT ε (StateM σ) β} {g : ε → ε'}
    (h : (x.adapt g).run.run s = (.ok b, s')) : x.run.run s = (.ok b, s') := by
  rw [run_adapt] at h
  rcases hx : x.run.run s with ⟨_ | a, s₁⟩ <;> rw [hx] at h <;> cases h
  rfl

end

/-! ### Requests -/

/-- Whether there is a file at a location that may be run. -/
def FileTree.isExecutable (t : FileTree) (l : Location) : Bool :=
  match t.node? l with
  | some (.file _ executable) => executable
  | _ => false

namespace Filing

variable {t t' : FileTree} {l : Location} {path : String}

/-- Looking up where a path leads changes nothing. -/
theorem run_locate (path : String) (t : FileTree) :
    (locate path).run.run t = (t.locate path, t) := by
  rw [locate, run_get_bind]
  cases t.locate path <;> rfl

/-- Most requests start by seeing where a path leads, and what the tree is. -/
theorem run_locate_bind {α : Type} (path : String) (f : Location → FileTree → Filing α)
    (t : FileTree) :
    (do let l ← locate path; let files ← get; f l files).run.run t =
      match t.locate path with
      | .error e => (.error e, t)
      | .ok l => (f l t).run.run t := by
  rw [run_bind, run_locate]
  rcases t.locate path with e | l
  · rfl
  · exact run_get_bind (f l) t

/-- A file is written where its path leads, unless there is a directory. It can be run
    afterwards if it could before. -/
theorem run_write (path : String) (contents : ByteArray) (t : FileTree) :
    (write path contents).run.run t =
      match t.locate path with
      | .error e => (.error e, t)
      | .ok l =>
        match t.node? l with
        | some .directory => (.error .isDirectory, t)
        | some (.file _ executable) => (.ok (), t.put l (.file contents executable))
        | none => (.ok (), t.put l (.file contents false)) := by
  rw [write, run_locate_bind]
  rcases t.locate path with e | l
  · rfl
  · dsimp only
    rcases t.node? l with _ | _ | _ <;> rfl

/-- A file is written where its path leads, and whether it may be run stays as it is. -/
theorem run_write_of_locate (hl : t.locate path = .ok l) (hnode : t.node? l ≠ some .directory)
    (contents : ByteArray) : (write path contents).run.run t =
      (.ok (), t.put l (.file contents (t.isExecutable l))) := by
  rw [run_write, FileTree.isExecutable]
  rcases hfile : t.node? l with _ | _ | ⟨contents, executable⟩
  · simp only [hl, hfile]
  · exact absurd hfile hnode
  · simp only [hl, hfile]

/-- A file is taken away from where its path leads. A directory is not. -/
theorem run_remove (path : String) (t : FileTree) :
    (remove path).run.run t =
      match t.locate path with
      | .error e => (.error e, t)
      | .ok l =>
        match t.node? l with
        | some .directory => (.error .isDirectory, t)
        | some (.file _ _) => (.ok (), t.erase l)
        | none => (.error .notFound, t) := by
  rw [remove, run_locate_bind]
  rcases t.locate path with e | l
  · rfl
  · dsimp only
    rcases t.node? l with _ | _ | _ <;> rfl

/-- A directory is made where a path leads, if nothing is there. -/
theorem run_makeDirectory (path : String) (t : FileTree) :
    (makeDirectory path).run.run t =
      match t.locate (withoutEndSlash path) with
      | .error e => (.error e, t)
      | .ok l =>
        match t.node? l with
        | some _ => (.error .alreadyExists, t)
        | none => (.ok (), t.put l .directory) := by
  rw [makeDirectory, run_locate_bind]
  rcases t.locate (withoutEndSlash path) with e | l
  · rfl
  · dsimp only
    rcases t.node? l with _ | _ <;> rfl

/-- A file is written over another one, or where nothing was. -/
theorem exists_of_run_write {contents : ByteArray}
    (h : (write path contents).run.run t = (.ok (), t')) :
    ∃ l executable, t.locate path = .ok l ∧ t.node? l ≠ some .directory ∧
      t' = t.put l (.file contents executable) := by
  rw [run_write] at h
  rcases hl : t.locate path with e | l <;> simp only [hl] at h
  · cases h
  · rcases hnode : t.node? l with _ | _ | ⟨old, executable⟩ <;> simp only [hnode] at h <;> cases h
    · exact ⟨l, false, rfl, by simp [hnode], rfl⟩
    · exact ⟨l, executable, rfl, by simp [hnode], rfl⟩

end Filing

end Lifelines
