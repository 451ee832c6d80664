import Lifelines.Files.Tree

/-!
# Where paths lead

A path is walked through directories only, and where it leads depends on nothing else.
So it leads to the same location in every tree in which all these directories are still
there, whatever has become of the files.

* `FileTree.node?_put_of_ne`, `FileTree.node?_erase_of_ne`: a change at one location is
  seen at no other;
* `FileTree.target`: where a path leads, if it leads anywhere;
* `FileTree.locate_mono`: a path leads to the same location as long as no directory is
  taken away;
* `FileTree.exists_of_locate_below`: what leads to a name below a path leads to a
  directory first;
* `FileTree.target_withExtension_inj`: a path leads to different files with different
  extensions.
-/

namespace Lifelines

/-! ### Components -/

namespace Path

theorem splitSlashes_ne_nil (cs : List Char) : splitSlashes cs ≠ [] := by
  fun_induction splitSlashes cs <;> simp

/-- A character that is no slash goes to the first piece. -/
theorem splitSlashes_cons {c : Char} (hc : c ≠ '/') {cs piece : List Char}
    {pieces : List (List Char)} (h : splitSlashes cs = piece :: pieces) :
    splitSlashes (c :: cs) = (c :: piece) :: pieces := by
  rw [splitSlashes.eq_def]
  simp [h]

/-- A slash separates the pieces before it from those after it. -/
theorem splitSlashes_append (cs ds : List Char) :
    splitSlashes (cs ++ '/' :: ds) = splitSlashes cs ++ splitSlashes ds := by
  induction cs with
  | nil => rfl
  | cons c cs ih =>
    by_cases hc : c = '/'
    · subst hc
      exact congrArg _ ih
    · obtain ⟨piece, pieces, h⟩ := List.exists_cons_of_ne_nil (splitSlashes_ne_nil cs)
      rw [h, List.cons_append] at ih
      rw [List.cons_append, splitSlashes_cons hc ih, splitSlashes_cons hc h, List.cons_append]

/-- A text without a slash is its only piece. -/
theorem splitSlashes_of_not_mem {cs : List Char} (h : '/' ∉ cs) : splitSlashes cs = [cs] := by
  induction cs with
  | nil => rfl
  | cons c cs ih =>
    rw [List.mem_cons, not_or] at h
    exact splitSlashes_cons (Ne.symm h.1) (ih h.2)

theorem components_ne_nil (path : String) : components path ≠ [] := by
  simpa [components] using splitSlashes_ne_nil path.toList

/-- The components of a path come before those of what is below it. -/
theorem components_append (path : String) (rest : String) :
    components (path ++ "/" ++ rest) = components path ++ components rest := by
  rw [components, String.toList_append, String.toList_append, List.append_assoc,
    show "/".toList = ['/'] from rfl, List.singleton_append, splitSlashes_append, List.map_append,
    components, components]

/-- A name is its only component. -/
theorem components_of_not_mem {name : String} (h : '/' ∉ name.toList) :
    components name = [name] := by
  rw [components, splitSlashes_of_not_mem h, List.map_singleton, String.ofList_toList]

/-- What is put after a path without a slash is put after its last piece. -/
theorem exists_splitSlashes_append (cs : List Char) :
    ∃ pieces last, ∀ ds, '/' ∉ ds → splitSlashes (cs ++ ds) = pieces ++ [last ++ ds] := by
  induction cs with
  | nil => exact ⟨[], [], fun ds hds => splitSlashes_of_not_mem hds⟩
  | cons c cs ih =>
    obtain ⟨pieces, last, hsplit⟩ := ih
    by_cases hc : c = '/'
    · subst hc
      exact ⟨[] :: pieces, last, fun ds hds => congrArg ([] :: ·) (hsplit ds hds)⟩
    · cases pieces with
      | nil => exact ⟨[], c :: last, fun ds hds => splitSlashes_cons hc (hsplit ds hds)⟩
      | cons piece pieces =>
        exact ⟨(c :: piece) :: pieces, last, fun ds hds => splitSlashes_cons hc (hsplit ds hds)⟩

/-- What is below a path is absolute if the path is. -/
theorem isAbsolute_append {path : String} (hne : path ≠ "") (rest : String) :
    isAbsolute (path ++ "/" ++ rest) = isAbsolute path := by
  obtain ⟨c, cs, hcs⟩ := List.exists_cons_of_ne_nil (mt String.toList_eq_nil_iff.1 hne)
  simp [isAbsolute, hcs]

/-- An extension makes no path absolute. -/
theorem isAbsolute_withExtension (path ext : String) :
    isAbsolute (withExtension path ext) = isAbsolute path := by
  rw [isAbsolute, isAbsolute, withExtension, String.toList_append, String.toList_append]
  cases path.toList <;> rfl

end Path

/-! ### Changes at one location -/

namespace FileTree

variable {t t' : FileTree} {l m : Location} {node : Node} {path : String}

theorem ne_nil_of_node?_ne (h : t.node? l ≠ some .directory) : l ≠ [] := by
  rintro rfl
  exact h rfl

/-- Other entries are found as before. -/
theorem lookup_filter_ne {entries : List (Location × Node)} (h : m ≠ l) :
    (entries.filter fun entry => entry.1 ≠ l).lookup m = entries.lookup m := by
  induction entries with
  | nil => rfl
  | cons entry entries ih =>
    by_cases hentry : entry.1 = l
    · have hm : (m == entry.1) = false := by simpa [hentry] using h
      rw [List.filter_cons_of_neg (by simpa using hentry), ih, List.lookup_cons, hm]
    · rw [List.filter_cons_of_pos (by simpa using hentry), List.lookup_cons, List.lookup_cons, ih]

/-- An entry that is left out is not found. -/
theorem lookup_filter_self (entries : List (Location × Node)) (l : Location) :
    (entries.filter fun entry => entry.1 ≠ l).lookup l = none := by
  rw [List.lookup_eq_none_iff]
  intro entry hentry
  have hne : entry.1 ≠ l := by simpa using (List.mem_filter.1 hentry).2
  simpa using hne.symm

theorem node?_put_self (hl : l ≠ []) : (t.put l node).node? l = some node := by
  simp [node?, put, hl]

theorem node?_put_of_ne (h : m ≠ l) : (t.put l node).node? m = t.node? m := by
  have hm : (m == l) = false := by simpa using h
  rw [node?, node?, put, List.lookup_cons, hm, lookup_filter_ne h]

theorem node?_erase_self (hl : l ≠ []) : (t.erase l).node? l = none := by
  rw [node?, erase, lookup_filter_self]
  simp [hl]

theorem node?_erase_of_ne (h : m ≠ l) : (t.erase l).node? m = t.node? m := by
  rw [node?, node?, erase, lookup_filter_ne h]

/-! ### Walks -/

/-- Where a component leads from a location, if that is a directory. -/
def follow (l : Location) (c : String) : Location :=
  if c = "" ∨ c = "." then l else if c = ".." then l.dropLast else l ++ [c]

/-- A step of a walk starts at a directory, and where it leads depends on nothing else. -/
theorem walk_cons_eq_ok_iff {c : String} {cs : List String} :
    t.walk m (c :: cs) = .ok l ↔
      t.node? m = some .directory ∧ c.utf8ByteSize ≤ componentLimit ∧
        t.walk (follow m c) cs = .ok l := by
  rw [walk, follow]
  rcases hm : t.node? m with _ | _ | _
  · simp
  · by_cases h₁ : c = "" ∨ c = "."
    · have hsize : c.utf8ByteSize ≤ componentLimit := by rcases h₁ with rfl | rfl <;> decide
      simp [h₁, hsize]
    · by_cases h₂ : c = ".."
      · subst h₂
        have hsize : "..".utf8ByteSize ≤ componentLimit := by decide
        simp [hsize]
      · by_cases h₃ : componentLimit < c.utf8ByteSize
        · simp [h₁, h₂, h₃, Nat.not_le.2 h₃]
        · simp [h₁, h₂, h₃, Nat.le_of_not_lt h₃]
  · simp

/-- A walk that gets to its end goes where the components say. -/
theorem eq_foldl_of_walk {cs : List String} (h : t.walk m cs = .ok l) : l = cs.foldl follow m := by
  induction cs generalizing m with
  | nil => cases h; rfl
  | cons c cs ih => exact ih (walk_cons_eq_ok_iff.1 h).2.2

/-- A walk goes the same way in a tree that has the same directories, and perhaps more. -/
theorem walk_mono (hdir : ∀ m, t.node? m = some .directory → t'.node? m = some .directory)
    {cs : List String} (h : t.walk m cs = .ok l) : t'.walk m cs = .ok l := by
  induction cs generalizing m with
  | nil => exact h
  | cons c cs ih =>
    obtain ⟨hm, hsize, hrest⟩ := walk_cons_eq_ok_iff.1 h
    exact walk_cons_eq_ok_iff.2 ⟨hdir m hm, hsize, ih hrest⟩

/-- A walk stops on the way where its first part ends. -/
theorem exists_of_walk_append {cs ds : List String} (h : t.walk m (cs ++ ds) = .ok l) :
    ∃ n, t.walk m cs = .ok n ∧ t.walk n ds = .ok l := by
  induction cs generalizing m with
  | nil => exact ⟨m, rfl, h⟩
  | cons c cs ih =>
    obtain ⟨hm, hsize, hrest⟩ := walk_cons_eq_ok_iff.1 h
    obtain ⟨n, hn, hl⟩ := ih hrest
    exact ⟨n, walk_cons_eq_ok_iff.2 ⟨hm, hsize, hn⟩, hl⟩

/-- A path that can be given leads to where it is walked to. -/
theorem locate_eq_ok_iff : t.locate path = .ok l ↔
    path ≠ "" ∧ '\x00' ∉ path.toList ∧ path.utf8ByteSize ≤ pathLimit ∧
      t.walk (if Path.isAbsolute path then [] else t.here) (Path.components path) = .ok l := by
  rw [locate]
  split
  · next h => simp_all
  · next h =>
    split
    · next h' => simp_all
    · next h' =>
      split
      · next h'' => simp [Nat.not_le.2 h'']
      · next h'' => simp_all

/-- Where a path leads if all directories on the way are there. -/
def target (t : FileTree) (path : String) : Location :=
  (Path.components path).foldl follow (if Path.isAbsolute path then [] else t.here)

/-- A name of three or more characters is no dots, so it leads down. -/
theorem follow_name {c : String} (h : 2 < c.length) (l : Location) : follow l c = l ++ [c] := by
  have hne : ∀ s : String, s.length ≤ 2 → c ≠ s := by
    rintro s hs rfl
    omega
  rw [follow, if_neg (not_or.2 ⟨hne "" (by decide), hne "." (by decide)⟩),
    if_neg (hne ".." (by decide))]

theorem eq_target_of_locate (h : t.locate path = .ok l) : l = t.target path :=
  eq_foldl_of_walk (locate_eq_ok_iff.1 h).2.2.2

/-- A path leads to the same location as long as no directory is taken away. -/
theorem locate_mono (hhere : t'.here = t.here)
    (hdir : ∀ m, t.node? m = some .directory → t'.node? m = some .directory)
    (h : t.locate path = .ok l) : t'.locate path = .ok l := by
  rw [locate_eq_ok_iff] at h ⊢
  obtain ⟨hne, hzero, hsize, hwalk⟩ := h
  exact ⟨hne, hzero, hsize, by rw [hhere, walk_mono hdir hwalk]⟩

/-- A path leads to what is at its location. -/
theorem lookup_of_node? (hl : t.locate path = .ok l) (hnode : t.node? l = some node) :
    t.lookup path = .ok node := by
  rw [lookup, hl]
  simp [bind, Except.bind, hnode]

/-- A path leads somewhere if there is anything at its location. -/
theorem leads_of_locate (hl : t.locate path = .ok l) : t.leads path = (t.node? l).isSome := by
  rw [leads, lookup, hl]
  simp only [bind, Except.bind]
  cases t.node? l <;> rfl

/-- What is put where no directory is takes no directory away. -/
theorem node?_put_of_directory (hl : t.node? l ≠ some .directory)
    (hm : t.node? m = some .directory) : (t.put l node).node? m = some .directory := by
  have hne : m ≠ l := by
    rintro rfl
    exact hl hm
  rwa [node?_put_of_ne hne]

/-- What leads to a name below a path leads to a directory first. -/
theorem exists_of_locate_below {rest : String} (hne : path ≠ "")
    (h : t.locate (path ++ "/" ++ rest) = .ok l) :
    ∃ m, t.locate path = .ok m ∧ t.node? m = some .directory := by
  rw [locate_eq_ok_iff, Path.components_append, Path.isAbsolute_append hne] at h
  obtain ⟨-, hzero, hsize, hwalk⟩ := h
  obtain ⟨m, hm, hrest⟩ := exists_of_walk_append hwalk
  have hzero' : '\x00' ∉ path.toList := fun hmem => hzero (by simp [hmem])
  have hsize' : path.utf8ByteSize ≤ pathLimit := by
    simp only [String.utf8ByteSize_append] at hsize
    omega
  refine ⟨m, locate_eq_ok_iff.2 ⟨hne, hzero', hsize', hm⟩, ?_⟩
  -- the rest is walked from the directory
  obtain ⟨c, cs, hcs⟩ := List.exists_cons_of_ne_nil (Path.components_ne_nil rest)
  rw [hcs] at hrest
  exact (walk_cons_eq_ok_iff.1 hrest).1

/-- A path with an extension leads to a name that ends in the extension. -/
theorem exists_target_withExtension (t : FileTree) (path : String) :
    ∃ l last, ∀ ext, '/' ∉ ext.toList → 2 ≤ ext.length →
      t.target (Path.withExtension path ext) = l ++ [last ++ "." ++ ext] := by
  obtain ⟨pieces, last, hsplit⟩ := Path.exists_splitSlashes_append path.toList
  refine ⟨(pieces.map String.ofList).foldl follow (if Path.isAbsolute path then [] else t.here),
    String.ofList last, fun ext hext hlength => ?_⟩
  have hcomponents : Path.components (Path.withExtension path ext) =
      pieces.map String.ofList ++ [String.ofList last ++ "." ++ ext] := by
    have hdot : '/' ∉ '.' :: ext.toList := by simp [hext]
    have hlast : String.ofList (last ++ '.' :: ext.toList) = String.ofList last ++ "." ++ ext := by
      simp [← String.toList_inj]
    rw [Path.components, Path.withExtension, String.toList_append, String.toList_append,
      List.append_assoc, show ".".toList = ['.'] from rfl, List.singleton_append, hsplit _ hdot,
      List.map_append, List.map_singleton, hlast]
  -- a name of three characters or more is neither of the names with dots
  have hname : 2 < (String.ofList last ++ "." ++ ext).length := by
    rw [String.length_append, String.length_append, show ".".length = 1 from rfl]
    omega
  rw [target, hcomponents, Path.isAbsolute_withExtension, List.foldl_append, List.foldl_cons,
    List.foldl_nil, follow_name hname]

/-- With different extensions, a path leads to different files. -/
theorem target_withExtension_inj {ext ext' : String} (hext : '/' ∉ ext.toList)
    (hext' : '/' ∉ ext'.toList) (hlength : 2 ≤ ext.length) (hlength' : 2 ≤ ext'.length)
    (h : t.target (Path.withExtension path ext) = t.target (Path.withExtension path ext')) :
    ext = ext' := by
  obtain ⟨l, last, htarget⟩ := t.exists_target_withExtension path
  rw [htarget ext hext hlength, htarget ext' hext' hlength'] at h
  have hname := List.singleton_inj.1 (List.append_cancel_left h)
  simpa [← String.toList_inj] using hname

end FileTree

end Lifelines
