import Lifelines.Overrides
import Lifelines.Proofs.ParamWrites
import Lifelines.Proofs.Requests
import Mathlib.Data.List.Perm.Basic

/-!
# Overrides one after the other

Whether an override is accepted is a matter of its name and its value. It does not matter
what the parameters hold, nor what other overrides there are. So overrides are carried out
as far as the first one that is not acceptable on its own, and if there is none, each
parameter holds what it was given last. Overrides of different parameters do not get into
each other's way, and the order of overrides with different names makes no difference.

* `ParamSet.Refuses`: why a parameter is not set, told from what is given;
* `Overrides.Acceptable`: overrides that are accepted wherever they stand;
* `Overrides.Leaves`: what a parameter holds after overrides that are all acceptable;
* `Overrides.applyTo_of_acceptable`, `Overrides.applyTo_of_refuses`: what comes of overrides
  that are all acceptable, and of others;
* `Overrides.outcome_of_applyTo`: all of it, and the same for a change of the order.
-/

namespace Lifelines

/-! ### Refusals -/

/-- Why a value that is given to the parameter with a name is not taken. -/
inductive ParamSet.Refuses : String → ParamValue → ParamError → Prop
  /-- There is no such parameter. -/
  | unknown {name : String} (h : ∀ p : Param, p.name ≠ name) (given : ParamValue) :
    Refuses name given (.unknown name)
  /-- The number is not finite, which counts before its kind. -/
  | notFinite (p : Param) {x : Float} (hx : x.isFinite = false) :
    Refuses p.name (.number x) (.notFinite p x)
  /-- The number stands for neither of the flags. -/
  | number {x : Float} (hx : x.isFinite = true)
    (h : ∀ b : Bool, 2 ^ (-52 : Int) ≤ |Decimal.rational x - b.toNat|) :
    Refuses Param.underline.name (.number x) (.wrongKind .underline)
  /-- A flag, where a number is expected. -/
  | flag {p : Param} (hp : p ≠ .underline) (b : Bool) : Refuses p.name (.flag b) (.wrongKind p)

namespace ParamSet

open Param (ofName?_eq_some_iff)

variable {s s' : ParamSet} {p q : Param} {name : String} {given v w : ParamValue} {e : ParamError}

theorem set_name (s : ParamSet) (p : Param) (given : ParamValue) :
    s.set p.name given = s.setValue p given := by
  rw [set, ofName?_eq_some_iff.2 rfl]

/-- A value that a parameter does not accept is refused under its name. -/
theorem refuses_of_accept (h : p.accept given = .error e) : Refuses p.name given e := by
  cases given with
  | flag b =>
    by_cases hp : p = .underline
    · subst hp
      cases h
    · rw [Param.accept, Param.kind_of_ne hp] at h
      cases h
      exact .flag hp b
  | number x =>
    rw [Param.accept] at h
    split_ifs at h with hx
    -- a finite number can be refused only by the one parameter that is a flag
    · by_cases hp : p = .underline
      · subst hp
        cases hflag : flagOfNumber? x with
        | some b => simp [hflag, Param.kind] at h
        | none =>
          obtain rfl : .wrongKind .underline = e := by simpa [hflag, Param.kind] using h
          refine .number hx fun b => not_lt.1 fun hnear => ?_
          rw [(flagOfNumber?_eq_some_iff hx b).2 hnear] at hflag
          cases hflag
      · rw [Param.kind_of_ne hp] at h
        cases h
    · cases h
      exact .notFinite p (by simpa using hx)

/-- What is refused is refused by every set of parameters. -/
theorem set_of_refuses (h : Refuses name given e) (s : ParamSet) :
    s.set name given = .error e := by
  cases h with
  | unknown h given =>
    have hnone : Param.ofName? name = none := by
      rw [Option.eq_none_iff_forall_ne_some]
      exact fun p hp => h p (ofName?_eq_some_iff.1 hp)
    rw [set, hnone]
  | notFinite p hx =>
    rw [set_name, setValue, Param.accept, if_neg (by simp [hx])]
    rfl
  | @number x hx h =>
    have hflag : flagOfNumber? x = none := by
      rw [Option.eq_none_iff_forall_ne_some]
      exact fun b hb => (h b).not_gt ((flagOfNumber?_eq_some_iff hx b).1 hb)
    rw [set_name, setValue, Param.accept, if_pos hx, hflag]
    rfl
  | flag hp b =>
    rw [set_name, setValue, Param.accept, Param.kind_of_ne hp]
    rfl

/-- Whether and why a value is refused does not depend on what the parameters hold. -/
theorem set_eq_error_iff : s.set name given = .error e ↔ Refuses name given e := by
  refine ⟨fun h => ?_, fun h => set_of_refuses h s⟩
  cases hp : Param.ofName? name with
  | none =>
    rw [set, hp] at h
    cases h
    refine .unknown (fun p hname => ?_) given
    rw [ofName?_eq_some_iff.2 hname] at hp
    cases hp
  | some p =>
    obtain rfl := ofName?_eq_some_iff.1 hp
    rw [set_name, setValue] at h
    cases haccept : p.accept given with
    | ok v => simp [haccept, Except.map] at h
    | error e' =>
      obtain rfl : e' = e := by simpa [haccept, Except.map] using h
      exact refuses_of_accept haccept

/-! ### Writes of different parameters -/

/-- Parameters are the same if they hold the same. -/
theorem eq_of_value_eq (h : ∀ p, s.value p = s'.value p) : s = s' := by
  have hnumber : ∀ {x y : Float}, ParamValue.number x = .number y → x = y :=
    ParamValue.number.inj
  cases s
  cases s'
  rw [ParamSet.mk.injEq]
  exact ⟨hnumber (h .boxHeight), hnumber (h .boxWidth), hnumber (h .activeWidth),
    hnumber (h .messageSpacing), hnumber (h .objectSpacing), hnumber (h .dashInterval),
    hnumber (h .diagramWidth), hnumber (h .diagramHeight), ParamValue.flag.inj (h .underline)⟩

/-- Different parameters can be stored in either order. -/
theorem store_comm {given' : ParamValue} (hv : p.Takes given v) (hw : q.Takes given' w)
    (hpq : p ≠ q) (s : ParamSet) : (s.store p v).store q w = (s.store q w).store p v := by
  refine eq_of_value_eq fun r => ?_
  rw [value_store _ hw, value_store _ hv, value_store _ hv, value_store _ hw]
  split_ifs with hq hp
  · exact absurd (hp.symm.trans hq) hpq
  · rfl
  · rfl
  · rfl

end ParamSet

namespace Overrides

open ParamSet (Write Refuses)

/-- An override as a write of a parameter. -/
def write (entry : String × ParamValue) : Write :=
  .named entry.1 entry.2

/-- There is a parameter with the name of the override, and it takes the value. -/
def Acceptable (entry : String × ParamValue) : Prop :=
  ∃ p v, (write entry).Stores p v

/-- What a parameter holds after overrides, given what it held before: the value that it
    took from the last of those with its name, if there are any. -/
def Leaves (os : Overrides) (p : Param) (before after : ParamValue) : Prop :=
  (∃ earlier entry later, os = earlier ++ entry :: later ∧ (write entry).Stores p after ∧
    ∀ e ∈ later, e.1 ≠ p.name) ∨
  (∀ e ∈ os, e.1 ≠ p.name) ∧ after = before

variable {entry : String × ParamValue} {os os' earlier later : Overrides} {s s' : ParamSet}
  {p : Param} {v before : ParamValue} {why : ParamError} {e : ConfigError}

/-! ### One override -/

theorem set_of_stores (h : (write entry).Stores p v) (s : ParamSet) :
    s.set entry.1 entry.2 = .ok (s.store p v) :=
  (Write.run_eq_ok_iff (w := write entry)).2 ⟨p, v, h, rfl⟩

/-- What is not acceptable is refused for some reason. -/
theorem exists_refuses (h : ¬Acceptable entry) : ∃ why, Refuses entry.1 entry.2 why := by
  cases hset : ({} : ParamSet).set entry.1 entry.2 with
  | error why => exact ⟨why, ParamSet.set_eq_error_iff.1 hset⟩
  | ok s =>
    obtain ⟨p, v, hstores, -⟩ := (Write.run_eq_ok_iff (w := write entry)).1 hset
    exact absurd ⟨p, v, hstores⟩ h

/-- An acceptable override is carried out before those after it. -/
theorem applyTo_cons_of_stores (h : (write entry).Stores p v) (os : Overrides) (s : ParamSet) :
    applyTo (entry :: os) s = os.applyTo (s.store p v) := by
  rw [applyTo, apply, run_get_bind, set_of_stores h]
  rfl

/-- An override that is refused ends it all. -/
theorem applyTo_cons_of_refuses (h : Refuses entry.1 entry.2 why) (os : Overrides)
    (s : ParamSet) : applyTo (entry :: os) s = (.error (.invalidOverride entry.1 why), s) := by
  rw [applyTo, apply, run_get_bind, ParamSet.set_of_refuses h]
  rfl

/-- The first value is stored before the others are written. -/
theorem written_cons_of_stores (h : (write entry).Stores p v) (ws : List Write) (s : ParamSet) :
    s.written (write entry :: ws) = (s.store p v).written ws := by
  rw [ParamSet.written_eq_foldl, List.foldl_cons, h.leave_eq]
  rfl

/-! ### Many overrides -/

/-- Acceptable overrides are carried out before those after them. -/
theorem applyTo_append (h : ∀ entry ∈ earlier, Acceptable entry) (later : Overrides)
    (s : ParamSet) :
    applyTo (earlier ++ later) s = later.applyTo (s.written (earlier.map write)) := by
  induction earlier generalizing s with
  | nil => rfl
  | cons entry earlier ih =>
    obtain ⟨⟨p, v, hstores⟩, hearlier⟩ := List.forall_mem_cons.1 h
    rw [List.cons_append, applyTo_cons_of_stores hstores, ih hearlier, List.map_cons,
      written_cons_of_stores hstores]

/-- If all overrides are acceptable, all are written in turn. -/
theorem applyTo_of_acceptable (h : ∀ entry ∈ os, Acceptable entry) (s : ParamSet) :
    os.applyTo s = (.ok (), s.written (os.map write)) := by
  have happ := applyTo_append h [] s
  rw [List.append_nil] at happ
  exact happ

/-- What comes of overrides one of which is the first that is refused. -/
theorem applyTo_of_refuses (h : ∀ entry ∈ earlier, Acceptable entry)
    (hwhy : Refuses entry.1 entry.2 why) (later : Overrides) (s : ParamSet) :
    applyTo (earlier ++ entry :: later) s =
      (.error (.invalidOverride entry.1 why), s.written (earlier.map write)) := by
  rw [applyTo_append h, applyTo_cons_of_refuses hwhy]

/-- Overrides are all acceptable, or one of them is the first that is not. -/
theorem acceptable_or_refused (os : Overrides) : (∀ entry ∈ os, Acceptable entry) ∨
    ∃ earlier entry later why, os = earlier ++ entry :: later ∧
      (∀ entry ∈ earlier, Acceptable entry) ∧ Refuses entry.1 entry.2 why := by
  induction os with
  | nil => exact .inl (by simp)
  | cons entry os ih =>
    by_cases hentry : Acceptable entry
    · rcases ih with hos | ⟨earlier, refused, later, why, rfl, hearlier, hwhy⟩
      · exact .inl (List.forall_mem_cons.2 ⟨hentry, hos⟩)
      · exact .inr ⟨entry :: earlier, refused, later, why, rfl,
          List.forall_mem_cons.2 ⟨hentry, hearlier⟩, hwhy⟩
    · obtain ⟨why, hwhy⟩ := exists_refuses hentry
      exact .inr ⟨[], entry, os, why, rfl, by simp, hwhy⟩

/-- Setting parameters fails at the first override that is not acceptable, and those before it
    have been written. -/
theorem applyTo_eq_error_iff : os.applyTo s = (.error e, s') ↔
    ∃ earlier entry later why, os = earlier ++ entry :: later ∧
      (∀ a ∈ earlier, Acceptable a) ∧ Refuses entry.1 entry.2 why ∧
      e = .invalidOverride entry.1 why ∧ applyTo earlier s = (.ok (), s') := by
  constructor
  · intro h
    rcases acceptable_or_refused os with hos | ⟨earlier, entry, later, why, rfl, hearlier, hwhy⟩
    · rw [applyTo_of_acceptable hos] at h
      cases h
    · rw [applyTo_of_refuses hearlier hwhy] at h
      cases h
      exact ⟨earlier, entry, later, why, rfl, hearlier, hwhy, rfl,
        applyTo_of_acceptable hearlier s⟩
  · rintro ⟨earlier, entry, later, why, rfl, hearlier, hwhy, rfl, happly⟩
    rw [applyTo_of_acceptable hearlier] at happly
    cases happly
    exact applyTo_of_refuses hearlier hwhy later s

/-- Setting parameters goes well if every override is acceptable. -/
theorem applyTo_eq_ok_iff :
    (os.applyTo s).1 = .ok () ↔ ∀ entry ∈ os, Acceptable entry := by
  constructor
  · intro h
    rcases acceptable_or_refused os with hos | ⟨earlier, entry, later, why, rfl, hearlier, hwhy⟩
    · exact hos
    · rw [applyTo_of_refuses hearlier hwhy] at h
      cases h
  · intro h
    rw [applyTo_of_acceptable h]

/-! ### What parameters hold afterwards -/

/-- A parameter that no override names keeps its value. -/
theorem Leaves.eq_before (h : os.Leaves p before v) (hnone : ∀ entry ∈ os, entry.1 ≠ p.name) :
    v = before := by
  rcases h with ⟨earlier, last, later, rfl, hlast, -⟩ | ⟨-, hv⟩
  · exact absurd hlast.1.symm (hnone last (by simp))
  · exact hv

/-- Where names differ, an override is the last one with its name. -/
theorem Leaves.takes (h : os.Leaves p before v) (hdistinct : (os.map Prod.fst).Nodup)
    (hentry : entry ∈ os) (hname : entry.1 = p.name) : p.Takes entry.2 v := by
  rcases h with ⟨earlier, last, later, rfl, hlast, -⟩ | ⟨hnone, -⟩
  · obtain rfl : entry = last :=
      List.inj_on_of_nodup_map hdistinct hentry (by simp) (hname.trans hlast.1)
    exact hlast.2
  · exact absurd hname (hnone entry hentry)

/-- Acceptable overrides leave each parameter what was written to it last. -/
theorem leaves_written (h : ∀ entry ∈ os, Acceptable entry) (s : ParamSet) (p : Param) :
    os.Leaves p (s.value p) ((s.written (os.map write)).value p) := by
  have hkeep : ∀ entry ∈ os, ¬entry.1 = p.name → ∀ s, ((write entry).leave s).value p = s.value p :=
    fun _ _ hne => Write.value_leave_of_not_stores fun _ hstores => hne hstores.1.symm
  rw [ParamSet.written_eq_foldl, List.foldl_map]
  -- of acceptable overrides, the last one with the name of the parameter is stored in it
  rcases ParamSet.exists_last_of_foldl (fun s entry => (write entry).leave s) (·.value p) hkeep s
    with ⟨earlier, entry, later, hos, hname, hlater, heq⟩ | ⟨hnone, heq⟩
  · obtain ⟨q, v, hstores⟩ := h entry (by simp [hos])
    obtain rfl : q = p := Param.name_inj (hstores.1.trans hname)
    rw [heq, hstores.value_leave]
    exact .inl ⟨earlier, entry, later, hos, hstores, hlater⟩
  · exact .inr ⟨hnone, heq⟩

/-- Overrides that have been applied leave each parameter the last value given for it. -/
theorem leaves_applyTo (h : (os.applyTo s).1 = .ok ()) (p : Param) :
    os.Leaves p (s.value p) ((os.applyTo s).2.value p) := by
  have hos := applyTo_eq_ok_iff.1 h
  rw [applyTo_of_acceptable hos]
  exact leaves_written hos s p

/-- Acceptable overrides with different names may be carried out in any order. -/
theorem written_eq_of_perm (hperm : os.Perm os') (hdistinct : (os.map Prod.fst).Nodup)
    (h : ∀ entry ∈ os, Acceptable entry) (s : ParamSet) :
    s.written (os.map write) = s.written (os'.map write) := by
  rw [ParamSet.written_eq_foldl, ParamSet.written_eq_foldl, List.foldl_map, List.foldl_map]
  -- two overrides of a permutation commute, for they are of different parameters
  refine hperm.foldl_eq' (fun a ha b hb s => ?_) s
  by_cases hab : a = b
  · rw [hab]
  · obtain ⟨p, v, hp⟩ := h a ha
    obtain ⟨q, w, hq⟩ := h b hb
    have hpq : p ≠ q := by
      rintro rfl
      exact hab (List.inj_on_of_nodup_map hdistinct ha hb (hp.1.symm.trans hq.1))
    rw [hp.leave_eq, hp.leave_eq, hq.leave_eq, hq.leave_eq]
    exact ParamSet.store_comm hp.2 hq.2 hpq s

/-- Overrides are carried out if and only if each of them is acceptable on its own, whatever
    the parameters hold and wherever it stands. Then each parameter holds what it took from
    the last of them with its name, and what it held before if there is none. Otherwise the
    error is that of the first one that is not acceptable, and the parameters are those after
    the ones before it. Of overrides with different names, no order is better than another. -/
theorem outcome_of_applyTo (os : Overrides) (s : ParamSet) :
    ((os.applyTo s).1 = .ok () ↔ ∀ entry ∈ os, Acceptable entry) ∧
    ((os.applyTo s).1 = .ok () →
      ∀ p, os.Leaves p (s.value p) ((os.applyTo s).2.value p)) ∧
    (∀ e s', os.applyTo s = (.error e, s') ↔
      ∃ earlier entry later why, os = earlier ++ entry :: later ∧
        (∀ a ∈ earlier, Acceptable a) ∧ Refuses entry.1 entry.2 why ∧
        e = .invalidOverride entry.1 why ∧ applyTo earlier s = (.ok (), s')) ∧
    ∀ os' : Overrides, os.Perm os' → (os.map Prod.fst).Nodup →
      ((os.applyTo s).1 = .ok () ↔ (os'.applyTo s).1 = .ok ()) ∧
      ((os.applyTo s).1 = .ok () → (os.applyTo s).2 = (os'.applyTo s).2) := by
  refine ⟨applyTo_eq_ok_iff, leaves_applyTo, fun _ _ => applyTo_eq_error_iff,
    fun os' hperm hdistinct => ?_⟩
  have hiff : (os.applyTo s).1 = .ok () ↔ (os'.applyTo s).1 = .ok () := by
    simp only [applyTo_eq_ok_iff, hperm.mem_iff]
  refine ⟨hiff, fun h => ?_⟩
  have hos := applyTo_eq_ok_iff.1 h
  have hos' := applyTo_eq_ok_iff.1 (hiff.1 h)
  rw [applyTo_of_acceptable hos, applyTo_of_acceptable hos']
  exact written_eq_of_perm hperm hdistinct hos s

/-- Two overrides leave the same parameters in either order. -/
theorem two_overrides_in_either_order :
    (applyTo [("boxWidth", .number 2.0), ("underline", .number 0.0)] {}).2 =
      (applyTo [("underline", .number 0.0), ("boxWidth", .number 2.0)] {}).2 :=
  ((outcome_of_applyTo _ _).2.2.2 _ (.swap _ _ _) (by decide)).2 rfl

/-- A width that is a flag is refused; the width before it stays, and the height after it
    is not set. -/
example : applyTo [("boxWidth", .number 2.0), ("boxWidth", .flag true), ("boxHeight", .number 1.0)]
    {} = (.error (.invalidOverride "boxWidth" (.wrongKind .boxWidth)), { boxWidth := 2.0 }) := by
  rfl

end Overrides

end Lifelines
