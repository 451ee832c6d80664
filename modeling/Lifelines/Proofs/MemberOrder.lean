import Lifelines.Proofs.FileWriting
import Lifelines.Proofs.Overriding

/-!
# Parameters from an object in any order

A file of parameters holds the members of an object in some order, but they are taken in
the order of their names. So neither what is read from the file nor what comes of setting
the parameters depends on the order in the file, not even where something is wrong: of the
members that are no values, or that are refused, the one whose name comes first is the one
that counts, and of parameters it is those with names before it that are set.

* `Overrides.sortMembers_eq_of_perm`: sorted members do not depend on the order they had;
* `Overrides.Outcome`: what comes of the members of an object, told without any order;
* `Overrides.load_eq_of_perm`: all of it for files whose members are in different orders.
-/

namespace Lifelines.Overrides

open ParamSet (Refuses)
open scoped List

/-! ### Members and what comes of them -/

/-- A member as an override, if its value is a number or a flag. -/
def override? (m : String × Json) : Option (String × ParamValue) :=
  (ParamValue.ofJson? m.2).map fun v => (m.1, v)

/-- The parameters `s'` are `s` but for the members: each of these is taken by the parameter
    with its name. -/
structure SetTo (members : List (String × Json)) (s s' : ParamSet) : Prop where
  taken : ∀ m ∈ members, ∃ (p : Param) (given : ParamValue),
    override? m = some (p.name, given) ∧ p.Takes given (s'.value p)
  kept : ∀ p : Param, (∀ m ∈ members, m.1 ≠ p.name) → s'.value p = s.value p

/-- What comes of setting parameters to members that are in no particular order, and the
    parameters after it. -/
inductive Outcome (members : List (String × Json)) (s : ParamSet) :
    Except ConfigError Unit × ParamSet → Prop
  /-- A member is no value, and of such members its name comes first. Nothing is set. -/
  | notValue {m : String × Json} (hm : m ∈ members) (hvalue : override? m = none)
    (hfirst : ∀ m' ∈ members, m'.1 < m.1 → override? m' ≠ none) :
    Outcome members s (.error (.notParamValue m.1), s)
  /-- A member is refused, and those with names before it are set. -/
  | refused {entry : String × ParamValue} {why : ParamError} {s' : ParamSet}
    (hvalues : ∀ m ∈ members, override? m ≠ none) (hentry : entry ∈ members.filterMap override?)
    (hwhy : Refuses entry.1 entry.2 why)
    (hset : SetTo (members.filter fun m => m.1 < entry.1) s s') :
    Outcome members s (.error (.invalidOverride entry.1 why), s')
  /-- All members are set. -/
  | done {s' : ParamSet} (hset : SetTo members s s') : Outcome members s (.ok (), s')

/-- Sets parameters to the members in a file: whether all went well, and the set after it. -/
def applyFile (files : FileTree) (path : String) (s : ParamSet) :
    Except ConfigError Unit × ParamSet :=
  match load files path with
  | .ok os => os.applyTo s
  | .error e => (.error e, s)

/-! ### Sorted members -/

section

variable {α : Type} {name : String} {value : α} {m : String × α}
  {members members' : List (String × α)}

/-- The names come one after the other. -/
def Sorted (members : List (String × α)) : Prop :=
  members.Pairwise fun a b => a.1 < b.1

theorem lt_of_not_lt_of_ne {a b : String} (h : ¬a < b) (hne : ¬a = b) : b < a :=
  Classical.byContradiction fun h' => hne (String.le_antisymm h' h)

/-- Inserting a member brings no name but its own. -/
theorem name_of_mem_insertMember (h : m ∈ insertMember name value members) :
    m.1 = name ∨ ∃ m' ∈ members, m'.1 = m.1 := by
  induction members with
  | nil => exact .inl (by rw [List.mem_singleton.1 h])
  | cons first rest ih =>
    rw [insertMember] at h
    split_ifs at h with hlt heq
    · rcases List.mem_cons.1 h with rfl | h
      · exact .inl rfl
      · exact .inr ⟨m, h, rfl⟩
    · rcases List.mem_cons.1 h with rfl | h
      · exact .inl rfl
      · exact .inr ⟨m, List.mem_cons_of_mem _ h, rfl⟩
    · rcases List.mem_cons.1 h with rfl | h
      · exact .inr ⟨_, List.mem_cons_self, rfl⟩
      · exact (ih h).imp_right fun ⟨m', hm', heq⟩ => ⟨m', List.mem_cons_of_mem _ hm', heq⟩

/-- Members stay sorted when one is inserted. -/
theorem Sorted.insertMember (h : Sorted members) (name : String) (value : α) :
    Sorted (insertMember name value members) := by
  induction members with
  | nil => exact List.pairwise_singleton _ _
  | cons first rest ih =>
    obtain ⟨hfirst, hrest⟩ := List.pairwise_cons.1 h
    rw [Overrides.insertMember]
    -- the new member comes first, or in place of the first one, or after it
    split_ifs with hlt heq
    · refine List.pairwise_cons.2 ⟨fun m hm => ?_, h⟩
      rcases List.mem_cons.1 hm with rfl | hm
      · exact hlt
      · exact String.lt_trans hlt (hfirst m hm)
    · subst heq
      exact List.pairwise_cons.2 ⟨hfirst, hrest⟩
    · refine List.pairwise_cons.2 ⟨fun m hm => ?_, ih hrest⟩
      rcases name_of_mem_insertMember hm with hname | ⟨m', hm', hname⟩
      · exact hname ▸ lt_of_not_lt_of_ne hlt heq
      · exact hname ▸ hfirst m' hm'

/-- A member with a new name takes no other's place. -/
theorem insertMember_perm (h : ∀ m ∈ members, m.1 ≠ name) (value : α) :
    (insertMember name value members).Perm ((name, value) :: members) := by
  induction members with
  | nil => exact .refl _
  | cons first rest ih =>
    obtain ⟨hfirst, hrest⟩ := List.forall_mem_cons.1 h
    rw [insertMember]
    split_ifs with hlt heq
    · exact .refl _
    · exact absurd heq.symm hfirst
    · exact ((ih hrest).cons first).trans (.swap ..)

theorem sortMembers_concat (members : List (String × α)) (m : String × α) :
    sortMembers (members ++ [m]) = insertMember m.1 m.2 (sortMembers members) :=
  List.foldl_concat ..

/-- Sorted members are sorted. -/
theorem sorted_sortMembers (members : List (String × α)) : Sorted (sortMembers members) := by
  induction members using List.reverseRecOn with
  | nil => exact List.Pairwise.nil
  | append_singleton members m ih =>
    rw [sortMembers_concat]
    exact ih.insertMember m.1 m.2

/-- Members with different names are all kept. -/
theorem sortMembers_perm (h : (members.map Prod.fst).Nodup) :
    (sortMembers members).Perm members := by
  induction members using List.reverseRecOn with
  | nil => exact .refl _
  | append_singleton members m ih =>
    rw [List.map_append, List.nodup_append'] at h
    obtain ⟨hmembers, -, hdisjoint⟩ := h
    have hnew : ∀ m' ∈ sortMembers members, m'.1 ≠ m.1 := fun m' hm' heq =>
      hdisjoint (List.mem_map_of_mem ((ih hmembers).mem_iff.1 hm')) (by simp [heq])
    rw [sortMembers_concat]
    calc insertMember m.1 m.2 (sortMembers members)
      _ ~ m :: sortMembers members := insertMember_perm hnew m.2
      _ ~ m :: members := (ih hmembers).cons m
      _ ~ members ++ [m] := (List.perm_append_singleton m members).symm

/-- Members with different names are sorted into the same list, whatever their order. -/
theorem sortMembers_eq_of_perm (h : (members.map Prod.fst).Nodup)
    (hperm : members.Perm members') : sortMembers members = sortMembers members' := by
  have h' : (members'.map Prod.fst).Nodup := (hperm.map Prod.fst).nodup_iff.1 h
  refine List.Perm.eq_of_pairwise (fun a b _ _ hab hba => absurd hba (String.lt_asymm hab))
    (sorted_sortMembers members) (sorted_sortMembers members') ?_
  exact (sortMembers_perm h).trans (hperm.trans (sortMembers_perm h').symm)

theorem Sorted.left {earlier later : List (String × α)} (h : Sorted (earlier ++ later)) :
    Sorted earlier :=
  (List.pairwise_append.1 h).1

theorem Sorted.lt_of_mem {earlier later : List (String × α)} {m' : String × α}
    (h : Sorted (earlier ++ m :: later)) (hm' : m' ∈ earlier) : m'.1 < m.1 :=
  (List.pairwise_append.1 h).2.2 m' hm' m List.mem_cons_self

/-- What has a name before that of another member stands before it. -/
theorem Sorted.mem_of_lt {earlier later : List (String × α)} {m' : String × α}
    (h : Sorted (earlier ++ m :: later)) (hm' : m' ∈ earlier ++ m :: later)
    (hlt : m'.1 < m.1) : m' ∈ earlier := by
  obtain ⟨-, htail, -⟩ := List.pairwise_append.1 h
  rcases List.mem_append.1 hm' with hm' | hm'
  · exact hm'
  · rcases List.mem_cons.1 hm' with rfl | hm'
    · exact absurd hlt (String.lt_irrefl _)
    · exact absurd hlt (String.lt_asymm ((List.pairwise_cons.1 htail).1 m' hm'))

theorem Sorted.nodup (h : Sorted members) : (members.map Prod.fst).Nodup := by
  refine List.pairwise_map.2 (h.imp fun {a b} hlt heq => ?_)
  exact String.lt_irrefl b.1 (heq ▸ hlt)

end

/-! ### Members read -/

section

variable {m : String × Json} {members sorted : List (String × Json)} {os : Overrides}
  {entry : String × ParamValue} {s s' : ParamSet} {t : FileTree} {path text : String}

theorem name_of_override? (h : override? m = some entry) : m.1 = entry.1 := by
  obtain ⟨v, -, rfl⟩ := Option.map_eq_some_iff.1 h
  rfl

/-- A member that is a value comes before what is read of the others. -/
theorem ofMembers_cons_of_some (h : override? m = some entry) (members : List (String × Json)) :
    ofMembers (m :: members) = (ofMembers members).map (entry :: ·) := by
  obtain ⟨v, hv, rfl⟩ := Option.map_eq_some_iff.1 h
  rw [ofMembers, hv]

theorem ofMembers_cons_of_none (h : override? m = none) (members : List (String × Json)) :
    ofMembers (m :: members) = .error (.notParamValue m.1) := by
  rw [ofMembers, Option.map_eq_none_iff.1 h]

/-- Members that are values are read up to one that is not. -/
theorem ofMembers_append (h : ∀ m ∈ members, override? m ≠ none) (rest : List (String × Json)) :
    ofMembers (members ++ rest) = (ofMembers rest).map (members.filterMap override? ++ ·) := by
  induction members with
  | nil => cases hrest : ofMembers rest <;> simp [hrest, Except.map]
  | cons m members ih =>
    obtain ⟨hm, hmembers⟩ := List.forall_mem_cons.1 h
    obtain ⟨entry, hentry⟩ := Option.ne_none_iff_exists'.1 hm
    rw [List.cons_append, ofMembers_cons_of_some hentry, ih hmembers,
      List.filterMap_cons_some hentry]
    cases ofMembers rest <;> rfl

/-- If all members are values, the overrides are theirs. -/
theorem ofMembers_of_values (h : ∀ m ∈ members, override? m ≠ none) :
    ofMembers members = .ok (members.filterMap override?) := by
  have happend := ofMembers_append h []
  rw [List.append_nil] at happend
  rw [happend, ofMembers, Except.map, List.append_nil]

/-- The overrides of a file are those of its members in the order of their names. -/
theorem load_of_object (htext : t.readText path = .ok text)
    (hobject : Json.parse? text = some (.object members)) :
    load t path = ofMembers (sortMembers members) := by
  simp only [load, htext, ofText, hobject]

/-! ### Members set -/

theorem Sorted.filterMap_override? (h : Sorted members) : Sorted (members.filterMap override?) :=
  h.filterMap override? fun a b hab a' ha b' hb => by
    rwa [← name_of_override? ha, ← name_of_override? hb]

/-- Overrides with different names set parameters to the members that they have been read
    from. -/
theorem setTo_of_applyTo (hvalues : ∀ m ∈ members, override? m ≠ none)
    (hos : ∀ e, e ∈ os ↔ e ∈ members.filterMap override?) (hdistinct : (os.map Prod.fst).Nodup)
    (h : os.applyTo s = (.ok (), s')) : SetTo members s s' := by
  have hok : (os.applyTo s).1 = .ok () := by rw [h]
  have hleaves : ∀ p, os.Leaves p (s.value p) (s'.value p) := by
    have hleaves := leaves_applyTo hok
    rwa [h] at hleaves
  refine ⟨fun m hm => ?_, fun p hp => (hleaves p).eq_before fun e he => ?_⟩
  · obtain ⟨entry, hentry⟩ := Option.ne_none_iff_exists'.1 (hvalues m hm)
    have hmem : entry ∈ os := (hos entry).2 (List.mem_filterMap.2 ⟨m, hm, hentry⟩)
    obtain ⟨p, v, hname, -⟩ := applyTo_eq_ok_iff.1 hok entry hmem
    refine ⟨p, entry.2, ?_, (hleaves p).takes hdistinct hmem hname.symm⟩
    rw [hentry, hname]
  · obtain ⟨m, hm, hentry⟩ := List.mem_filterMap.1 ((hos e).1 he)
    rw [← name_of_override? hentry]
    exact hp m hm

/-- Of sorted overrides, those before one are those read from members with names before its
    name. -/
theorem mem_earlier_iff {earlier later : Overrides} {e : String × ParamValue}
    (hsorted : Sorted (earlier ++ entry :: later))
    (hos : ∀ e, e ∈ earlier ++ entry :: later ↔ e ∈ members.filterMap override?) :
    e ∈ earlier ↔ e ∈ (members.filter fun m => m.1 < entry.1).filterMap override? := by
  simp only [List.mem_filterMap, List.mem_filter, decide_eq_true_eq] at hos ⊢
  constructor
  · intro he
    obtain ⟨m, hm, hentry⟩ := (hos e).1 (List.mem_append_left _ he)
    exact ⟨m, ⟨hm, name_of_override? hentry ▸ hsorted.lt_of_mem he⟩, hentry⟩
  · rintro ⟨m, ⟨hm, hlt⟩, hentry⟩
    exact hsorted.mem_of_lt ((hos e).2 ⟨m, hm, hentry⟩) (name_of_override? hentry ▸ hlt)

/-- What comes of sorted members that are all values. -/
theorem outcome_of_values (hsorted : Sorted sorted) (hperm : sorted.Perm members)
    (hvalues : ∀ m ∈ members, override? m ≠ none) (s : ParamSet) :
    Outcome members s (applyTo (sorted.filterMap override?) s) := by
  have hentries := hsorted.filterMap_override?
  have hos : ∀ e, e ∈ sorted.filterMap override? ↔ e ∈ members.filterMap override? := fun e =>
    (hperm.filterMap override?).mem_iff
  rcases hrun : applyTo (sorted.filterMap override?) s with ⟨e | _, s'⟩
  · obtain ⟨earlier, entry, later, why, hsplit, -, hwhy, rfl, hearlier⟩ :=
      applyTo_eq_error_iff.1 hrun
    rw [hsplit] at hos hentries
    -- what was set before the refusal has been read from the members with names before it
    have hset := setTo_of_applyTo (fun m hm => hvalues m (List.mem_of_mem_filter hm))
      (fun e => mem_earlier_iff hentries hos) hentries.left.nodup hearlier
    exact .refused hvalues ((hos entry).1 (by simp)) hwhy hset
  · exact .done (setTo_of_applyTo hvalues hos hentries.nodup hrun)

/-- What comes of sorted members is told by the members in any order. -/
theorem outcome_of_load (hsorted : Sorted sorted) (hperm : sorted.Perm members)
    (hload : load t path = ofMembers sorted) (s : ParamSet) :
    Outcome members s (applyFile t path s) := by
  -- reading stops at the first member in sorted order that is no value
  cases hfind : sorted.find? fun m => (override? m).isNone with
  | some m =>
    obtain ⟨hm, earlier, later, rfl, hearlier⟩ := List.find?_eq_some_iff_append.1 hfind
    have hvalue : override? m = none := by simpa using hm
    have hvalues : ∀ m ∈ earlier, override? m ≠ none := fun m hm =>
      Option.isSome_iff_ne_none.1 (by simpa using hearlier m hm)
    rw [ofMembers_append hvalues, ofMembers_cons_of_none hvalue] at hload
    simp only [applyFile, hload, Except.map]
    refine .notValue (hperm.mem_iff.1 (by simp)) hvalue fun m' hm' hlt => ?_
    exact hvalues m' (hsorted.mem_of_lt (hperm.mem_iff.2 hm') hlt)
  | none =>
    have hvalues : ∀ m ∈ sorted, override? m ≠ none := by simpa using List.find?_eq_none.1 hfind
    simp only [applyFile, hload, ofMembers_of_values hvalues]
    exact outcome_of_values hsorted hperm (fun m hm => hvalues m (hperm.mem_iff.2 hm)) s

/-- Of two files that hold the members of an object in different orders, the same overrides
    are read, or reading them fails with the same error. To set parameters to them gives the
    same in either case, which is what the members give without regard to any order. -/
theorem load_eq_of_perm {t t' : FileTree} {path path' text text' : String}
    {members members' : List (String × Json)} (htext : t.readText path = .ok text)
    (htext' : t'.readText path' = .ok text') (hobject : Json.parse? text = some (.object members))
    (hobject' : Json.parse? text' = some (.object members'))
    (hdistinct : (members.map Prod.fst).Nodup) (hperm : members.Perm members') :
    load t path = load t' path' ∧
      ∀ s, applyFile t path s = applyFile t' path' s ∧ Outcome members s (applyFile t path s) := by
  have hload := load_of_object htext hobject
  -- the reader keeps members sorted, so their order in the text is lost
  have hsame : load t path = load t' path' := by
    rw [hload, load_of_object htext' hobject', sortMembers_eq_of_perm hdistinct hperm]
  refine ⟨hsame, fun s => ⟨?_, ?_⟩⟩
  · rw [applyFile, applyFile, hsame]
  · exact outcome_of_load (sorted_sortMembers members) (sortMembers_perm hdistinct) hload s

/-- Two orders of a parameter that is set and a name that is not known. -/
theorem load_swapped_members :
    let known := FileTree.single "\x7b\"underline\": false, \"zoom\": true\x7d"
    let unknown := FileTree.single "\x7b\"zoom\": true, \"underline\": false\x7d"
    load known "f" = load unknown "f" ∧ applyFile known "f" {} = applyFile unknown "f" {} ∧
      Outcome [("underline", .bool false), ("zoom", .bool true)] {} (applyFile known "f" {}) := by
  intro known unknown
  have hobject : Json.parse? "\x7b\"underline\": false, \"zoom\": true\x7d" =
      some (.object [("underline", .bool false), ("zoom", .bool true)]) := by cbv
  have hobject' : Json.parse? "\x7b\"zoom\": true, \"underline\": false\x7d" =
      some (.object [("zoom", .bool true), ("underline", .bool false)]) := by cbv
  have h := load_eq_of_perm (FileTree.readText_single _) (FileTree.readText_single _) hobject
    hobject' (by decide) (.swap ..)
  exact ⟨h.1, h.2 {}⟩

end

end Lifelines.Overrides
