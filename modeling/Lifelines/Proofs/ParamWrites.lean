import Lifelines.Proofs.Precision
import Mathlib.Data.List.Basic

/-!
# What layout parameters hold

However often parameters are written, under whatever names and with whatever values, each
of them holds the value of the last write that it took, or else its default. No write of
another parameter, and none that was refused, leaves a trace. All that is held is finite,
so that it can be compared and be written back, and each of the pic variables is assigned
what its parameter holds.

* `Param.Takes`: the value that a parameter holds when it is given one;
* `ParamSet.Write`, `ParamSet.written`: writes, and the parameters after them;
* `ParamSet.Write.run_eq_ok_iff`: which writes are accepted, and what they store;
* `ParamSet.LastWritten`: the value of the last accepted write;
* `ParamSet.holds_last_written`: what the parameters hold after any writes.
-/

namespace Lifelines

/-- The value that a parameter holds when it is given one. It is given in vain if there is
    no such value. -/
inductive Param.Takes : Param → ParamValue → ParamValue → Prop
  /-- A finite number, where a number is expected. -/
  | number {p : Param} {x : Float} (hp : p ≠ .underline) (hx : x.isFinite = true) :
    Takes p (.number x) (.number x)
  /-- A flag, where a flag is expected. -/
  | flag (b : Bool) : Takes .underline (.flag b) (.flag b)
  /-- A finite number for a flag, if it is the digit of the flag up to the machine
      precision. -/
  | digit {x : Float} {b : Bool} (hx : x.isFinite = true)
    (h : |Decimal.rational x - b.toNat| < 2 ^ (-52 : Int)) :
    Takes .underline (.number x) (.flag b)

namespace ParamSet

/-- A value that is given to a parameter, by its name or as such. -/
inductive Write where
  | named (name : String) (given : ParamValue)
  | direct (p : Param) (given : ParamValue)

namespace Write

/-- Carries a write out. -/
def run (s : ParamSet) : Write → Except ParamError ParamSet
  | named name given => s.set name given
  | direct p given => s.setValue p given

/-- The write is one of the parameter, and the parameter takes what it is given. -/
def Stores : Write → Param → ParamValue → Prop
  | named name given, p, v => p.name = name ∧ p.Takes given v
  | direct q given, p, v => p = q ∧ p.Takes given v

end Write

/-- The parameters after some writes; a refused one changes nothing. -/
def written (s : ParamSet) (ws : List Write) : ParamSet :=
  ws.foldl (fun s w => (w.run s).toOption.getD s) s

/-- The value of the last write of a parameter that is accepted, or the default if there
    is none. -/
def LastWritten (ws : List Write) (p : Param) (v : ParamValue) : Prop :=
  (∃ before w after, ws = before ++ w :: after ∧ w.Stores p v ∧
    ∀ w' ∈ after, ∀ v', ¬w'.Stores p v') ∨
  (∀ w ∈ ws, ∀ v', ¬w.Stores p v') ∧ v = ({} : ParamSet).value p

/-- The assignments to a pic variable. -/
def assigned (s : ParamSet) (variableName : String) : List String :=
  s.assignments.filter fun a => (variableName.toList ++ ['=']).isPrefixOf a.toList

end ParamSet

/-! ### One parameter -/

namespace Param

/-- A name stands for the parameter that has it. -/
theorem ofName?_eq_some_iff {name : String} {p : Param} :
    ofName? name = some p ↔ p.name = name := by
  constructor
  · intro h
    simpa using List.find?_some h
  · rintro rfl
    cases p <;> decide

theorem name_inj {p q : Param} (h : p.name = q.name) : p = q := by
  rw [← ofName?_eq_some_iff, ofName?_eq_some_iff.2 rfl] at h
  exact (Option.some.inj h).symm

theorem kind_of_ne {p : Param} (hp : p ≠ .underline) : p.kind = .numeric := by
  cases p <;> first | rfl | exact absurd rfl hp

variable {p : Param} {given v : ParamValue}

/-- Only what is taken is accepted. -/
theorem takes_of_accept (h : p.accept given = .ok v) : p.Takes given v := by
  -- only the underline is a flag, and it is also given as a digit
  by_cases hp : p = .underline
  · subst hp
    cases given with
    | flag b =>
      cases h
      exact .flag b
    | number x =>
      rw [accept] at h
      split_ifs at h with hx
      cases hb : flagOfNumber? x with
      | none => simp [hb, kind] at h
      | some b =>
        obtain rfl : .flag b = v := by simpa [hb, kind] using h
        exact .digit hx ((flagOfNumber?_eq_some_iff hx b).1 hb)
  · cases given with
    | flag b => simp [accept, kind_of_ne hp] at h
    | number x =>
      rw [accept, kind_of_ne hp] at h
      split_ifs at h with hx
      cases h
      exact .number hp hx

/-- A parameter accepts what it takes. -/
theorem accept_of_takes (h : p.Takes given v) : p.accept given = .ok v := by
  cases h with
  | number hp hx => rw [accept, kind_of_ne hp, if_pos hx]
  | flag b => rfl
  | digit hx hdigit =>
    rw [accept, if_pos hx, (flagOfNumber?_eq_some_iff hx _).2 hdigit]
    rfl

theorem accept_eq_ok_iff : p.accept given = .ok v ↔ p.Takes given v :=
  ⟨takes_of_accept, accept_of_takes⟩

end Param

namespace ParamSet

variable {s : ParamSet} {p : Param} {given v : ParamValue}

/-- What is stored is held by the parameter, and by no other one. -/
theorem value_store (s : ParamSet) (h : p.Takes given v) (q : Param) :
    (s.store p v).value q = if q = p then v else s.value q := by
  cases h with
  | number hp hx => cases p <;> cases q <;> first | rfl | exact absurd rfl hp
  | flag b | digit => cases q <;> rfl

theorem store_value (s : ParamSet) (p : Param) : s.store p (s.value p) = s := by
  cases p <;> rfl

/-- A parameter is set if it takes what it is given, and then it holds what it takes. -/
theorem setValue_eq_ok_iff {s' : ParamSet} :
    s.setValue p given = .ok s' ↔ ∃ v, p.Takes given v ∧ s' = s.store p v := by
  simp only [← Param.accept_eq_ok_iff, setValue]
  cases p.accept given <;> simp [Except.map, eq_comm]

/-! ### One write -/

namespace Write

variable {w : Write} {s' : ParamSet}

/-- A write is accepted if it stores something, and then that is stored. -/
theorem run_eq_ok_iff : w.run s = .ok s' ↔ ∃ p v, w.Stores p v ∧ s' = s.store p v := by
  cases w with
  | direct q given => simp [run, Stores, setValue_eq_ok_iff, and_assoc]
  | named name given =>
    rw [run, set]
    cases hq : Param.ofName? name with
    | none =>
      have hnone : ∀ p : Param, p.name ≠ name := fun p hp => by
        simp [Param.ofName?_eq_some_iff.2 hp] at hq
      simp [Stores, hnone]
    | some q =>
      obtain rfl := Param.ofName?_eq_some_iff.1 hq
      rw [setValue_eq_ok_iff]
      constructor
      · rintro ⟨v, hv, rfl⟩
        exact ⟨q, v, ⟨rfl, hv⟩, rfl⟩
      · rintro ⟨p, v, ⟨hp, hv⟩, rfl⟩
        obtain rfl := Param.name_inj hp
        exact ⟨v, hv, rfl⟩

theorem Stores.exists_takes (h : w.Stores p v) : ∃ given, p.Takes given v := by
  cases w with
  | named name given | direct q given => exact ⟨given, h.2⟩

/-- The parameters after a write; they are the same if it is refused. -/
def leave (s : ParamSet) (w : Write) : ParamSet :=
  (w.run s).toOption.getD s

theorem Stores.leave_eq (hw : w.Stores p v) (s : ParamSet) : w.leave s = s.store p v := by
  rw [leave, run_eq_ok_iff.2 ⟨p, v, hw, rfl⟩]
  rfl

/-- After a write that is accepted the parameter holds the value. -/
theorem Stores.value_leave (hw : w.Stores p v) (s : ParamSet) :
    (w.leave s).value p = v := by
  obtain ⟨given, hv⟩ := hw.exists_takes
  rw [hw.leave_eq, value_store s hv, if_pos rfl]

/-- A write that is not one of the parameter, or is refused, does not change what it holds. -/
theorem value_leave_of_not_stores (hw : ∀ v, ¬w.Stores p v) (s : ParamSet) :
    (w.leave s).value p = s.value p := by
  cases hrun : w.run s with
  | error e => rw [leave, hrun, Except.toOption, Option.getD_none]
  | ok s' =>
    obtain ⟨q, v, hstores, -⟩ := run_eq_ok_iff.1 hrun
    obtain ⟨given, hv⟩ := hstores.exists_takes
    rw [hstores.leave_eq, value_store s hv, if_neg]
    rintro rfl
    exact hw v hstores

end Write

/-! ### Many writes -/

/-- What is left by some steps was left by the last one that matters, or was there before if
    none does. -/
theorem exists_last_of_foldl {α β σ : Type} (f : σ → α → σ) (g : σ → β) {P : α → Prop}
    {xs : List α} (hkeep : ∀ x ∈ xs, ¬P x → ∀ s, g (f s x) = g s) (s : σ) :
    (∃ before x after, xs = before ++ x :: after ∧ P x ∧ (∀ y ∈ after, ¬P y) ∧
      g (xs.foldl f s) = g (f (before.foldl f s) x)) ∨
    (∀ x ∈ xs, ¬P x) ∧ g (xs.foldl f s) = g s := by
  induction xs using List.reverseRecOn with
  | nil => exact .inr ⟨by simp, rfl⟩
  | append_singleton xs x ih =>
    rw [List.foldl_concat]
    by_cases hx : P x
    · exact .inl ⟨xs, x, [], rfl, hx, by simp, rfl⟩
    · have hmore : ∀ ys : List α, (∀ y ∈ ys, ¬P y) → ∀ y ∈ ys ++ [x], ¬P y := fun _ hys =>
        List.forall_mem_append.2 ⟨hys, List.forall_mem_singleton.2 hx⟩
      rw [hkeep x (by simp) hx]
      rcases ih fun y hy => hkeep y (List.mem_append_left _ hy) with
        ⟨before, y, after, rfl, hy, hafter, heq⟩ | ⟨hnone, heq⟩
      · exact .inl ⟨before, y, after ++ [x], by simp, hy, hmore after hafter, heq⟩
      · exact .inr ⟨hmore xs hnone, heq⟩

theorem written_eq_foldl (s : ParamSet) (ws : List Write) :
    s.written ws = ws.foldl Write.leave s := rfl

/-- Each parameter of the default set holds what was written to it last. -/
theorem lastWritten_written (ws : List Write) (p : Param) :
    LastWritten ws p ((written {} ws).value p) := by
  have hkeep : ∀ w ∈ ws, (¬∃ v, w.Stores p v) → ∀ s, (w.leave s).value p = s.value p :=
    fun w _ hw => Write.value_leave_of_not_stores (not_exists.1 hw)
  rw [written_eq_foldl]
  rcases exists_last_of_foldl Write.leave (value · p) hkeep {} with
    ⟨before, w, after, hws, ⟨v, hw⟩, hafter, heq⟩ | ⟨hnone, heq⟩
  · refine .inl ⟨before, w, after, hws, ?_, fun w' hw' => not_exists.1 (hafter w' hw')⟩
    rw [heq, hw.value_leave]
    exact hw
  · exact .inr ⟨fun w hw => not_exists.1 (hnone w hw), heq⟩

/-- All numbers that are stored are finite, the defaults too. -/
theorem LastWritten.isFinite {x : Float} (h : LastWritten ws p (.number x)) :
    x.isFinite = true := by
  rcases h with ⟨before, w, after, rfl, hw, -⟩ | ⟨-, hx⟩
  · obtain ⟨given, hx⟩ := hw.exists_takes
    cases hx with
    | number hp hx => exact hx
  · cases p <;> cases hx <;> decide

/-! ### Finite parameters -/

section

variable (h : ∀ p x, s.value p = .number x → x.isFinite = true)

include h

/-- Every value of a set is one that its parameter takes. -/
theorem takes_value (p : Param) : p.Takes (s.value p) (s.value p) := by
  cases hv : s.value p with
  | number x =>
    refine .number ?_ (h p x hv)
    rintro rfl
    cases hv
  | flag b =>
    obtain rfl : p = .underline := by cases p <;> first | rfl | cases hv
    exact .flag b

/-- A set of parameters equals itself: none of its numbers is not a number. -/
theorem beq_self : (s == s) = true := by
  have hself : ∀ p x, s.value p = .number x → (x == x) = true := fun p x hx =>
    Decimal.beq_self_of_isFinite (h p x hx)
  change instBEqParamSet.beq s s = true
  simp only [instBEqParamSet.beq, Bool.and_eq_true]
  exact ⟨hself .boxHeight _ rfl, hself .boxWidth _ rfl, hself .activeWidth _ rfl,
    hself .messageSpacing _ rfl, hself .objectSpacing _ rfl, hself .dashInterval _ rfl,
    hself .diagramWidth _ rfl, hself .diagramHeight _ rfl, BEq.rfl⟩

theorem setValue_value (p : Param) : s.setValue p (s.value p) = .ok s :=
  setValue_eq_ok_iff.2 ⟨_, takes_value h p, (store_value s p).symm⟩

end

/-! ### Assignments -/

/-- No pic variable is assigned to where another one is. -/
theorem isPrefixOf_variableName (p q : Param) (text : List Char) :
    (p.variableName.toList ++ ['=']).isPrefixOf (q.variableName.toList ++ '=' :: text) =
      decide (q = p) := by
  cases p <;> cases q <;> rfl

/-- A pic variable is assigned once, to the value of its parameter. -/
theorem assigned_variableName (s : ParamSet) (p : Param) : s.assigned p.variableName =
    [p.variableName ++ "=" ++ (s.value p).text ++ ";"] := by
  have hall : Param.all.filter (fun q => decide (q = p)) = [p] := by cases p <;> rfl
  rw [assigned, assignments, List.filter_map]
  refine (congrArg (List.map _) (List.filter_congr fun q _ => ?_)).trans
    (congrArg (List.map _) hall)
  rw [← isPrefixOf_variableName p q ((s.value q).text.toList ++ [';'])]
  simp

/-- Whatever is written, a write is accepted if and only if a parameter of that name takes
    the value, and each parameter holds what it took last. It is a finite number or a flag,
    so that it can be written back, and it is assigned to the pic variable of the
    parameter. -/
theorem holds_last_written (ws : List Write) :
    let s := written {} ws
    (∀ w : Write, (∃ s', w.run s = .ok s') ↔ ∃ p v, w.Stores p v) ∧
    (∀ p, LastWritten ws p (s.value p) ∧ s.get p.name = .ok (s.value p)) ∧
    (∀ p x, s.value p = .number x → x.isFinite = true) ∧ (s == s) = true ∧
    (∀ p, s.set p.name (s.value p) = .ok s ∧ s.setValue p (s.value p) = .ok s) ∧
    s.assignments = (Param.all.map fun p => p.variableName ++ "=" ++ (s.value p).text ++ ";") ∧
    Param.all.length = 9 ∧
    ∀ p, s.assigned p.variableName = [p.variableName ++ "=" ++ (s.value p).text ++ ";"] := by
  intro s
  have hfinite : ∀ p x, s.value p = .number x → x.isFinite = true := by
    intro p x hx
    have hlast := lastWritten_written ws p
    rw [hx] at hlast
    exact hlast.isFinite
  refine ⟨fun w => ?_, fun p => ⟨lastWritten_written ws p, ?_⟩, hfinite, beq_self hfinite,
    fun p => ⟨?_, setValue_value hfinite p⟩, rfl, rfl, assigned_variableName s⟩
  · constructor
    · rintro ⟨s', hrun⟩
      obtain ⟨p, v, hw, -⟩ := Write.run_eq_ok_iff.1 hrun
      exact ⟨p, v, hw⟩
    · rintro ⟨p, v, hw⟩
      exact ⟨_, Write.run_eq_ok_iff.2 ⟨p, v, hw, rfl⟩⟩
  · rw [get, Param.ofName?_eq_some_iff.2 rfl]
  · rw [set, Param.ofName?_eq_some_iff.2 rfl]
    exact setValue_value hfinite p

end ParamSet

end Lifelines
