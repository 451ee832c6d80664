import Lifelines.Naming
import Std.Data.String.ToNat

/-!
# Generated names are told apart

A generated name gives back its kind and its number, so that an element of a
diagram is known by its name alone.

* `NameKind.name_inj`: names are equal only if they agree in kind and number;
* `Text.IsWord`: texts of letters, digits and underscores, which the written form
  of a statement keeps apart from its punctuation; all generated names are words
  (`NameKind.isWord_name`).
-/

namespace Lifelines

/-- Letters, digits and the underscore. -/
def Text.isWordChar (c : Char) : Bool :=
  c.isAlphanum || c == '_'

/-- A text of letters, digits and underscores that is not empty. -/
structure Text.IsWord (s : String) : Prop where
  nonempty : s ≠ ""
  chars : ∀ c ∈ s.toList, Text.isWordChar c = true

/-- A text is a word if all its characters are those of words and there is one. -/
theorem Text.isWord_of_all {s : String}
    (h : (!s.toList.isEmpty && s.toList.all Text.isWordChar) = true) : Text.IsWord s where
  nonempty := by
    rintro rfl
    simp at h
  chars := by
    rw [Bool.and_eq_true, List.all_eq_true] at h
    exact h.2

/-- A number is written in digits. -/
theorem Text.isDigit_of_mem_toString {n : Nat} {c : Char} (h : c ∈ (toString n).toList) :
    c.isDigit = true := by
  rw [Nat.toString_eq_repr, Nat.toList_repr] at h
  exact Nat.isDigit_of_mem_toDigits (by decide) (by decide) h

namespace NameKind

/-- A name is the letter of its kind, an underscore and the digits of its number. -/
theorem toList_name (kind : NameKind) (n : Nat) :
    (kind.name n).toList = kind.letter.toList ++ '_' :: Nat.toDigits 10 n := by
  simp [name, String.toList_append]

/-- The number of a name is what its digits say. -/
theorem eq_of_name_eq {kind : NameKind} {m n : Nat} (h : kind.name m = kind.name n) : m = n := by
  have hl := congrArg String.toList h
  rw [toList_name, toList_name, List.append_cancel_left_eq, List.cons.injEq] at hl
  apply Nat.repr_injective
  rw [← String.toList_inj, Nat.toList_repr, Nat.toList_repr]
  exact hl.2

/-- The kind of a name is what its first letter says. -/
theorem kind_eq_of_name_eq {kind kind' : NameKind} {m n : Nat}
    (h : kind.name m = kind'.name n) : kind = kind' := by
  have hl := congrArg (fun s => s.toList.head?) h
  rw [toList_name, toList_name] at hl
  revert hl
  cases kind <;> cases kind' <;> simp [letter]

/-- A name tells the kind and the number that it was made from. -/
@[simp]
theorem name_inj {kind kind' : NameKind} {m n : Nat} :
    kind.name m = kind'.name n ↔ kind = kind' ∧ m = n := by
  constructor
  · intro h
    obtain rfl := kind_eq_of_name_eq h
    exact ⟨rfl, eq_of_name_eq h⟩
  · rintro ⟨rfl, rfl⟩
    rfl

/-- Names are words. -/
theorem isWord_name (kind : NameKind) (n : Nat) : Text.IsWord (kind.name n) where
  nonempty h := by
    have := congrArg String.toList h
    rw [toList_name] at this
    simp at this
  chars c hc := by
    rw [toList_name, List.mem_append, List.mem_cons] at hc
    rcases hc with hc | rfl | hc
    · cases kind <;> simp [letter] at hc <;> subst hc <;> decide
    · decide
    · have hd := Nat.isDigit_of_mem_toDigits (by decide) (by decide) hc
      simp [Text.isWordChar, Char.isAlphanum, hd]

end NameKind

end Lifelines
