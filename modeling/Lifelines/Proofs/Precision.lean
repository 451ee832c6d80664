import Lifelines.Param
import Lifelines.Proofs.Binary64

/-!
# Numbers that stand for a flag

A number stands for a flag if it is zero or one up to the machine precision. Whether it
is one is tested on a difference, and a difference is rounded. Nothing comes of the
rounding: a difference of at least the machine precision is not rounded below it, since
the machine precision is a number itself, and the only number nearer to one than that,
other than one, is the one just below it, whose difference to one is a number.

* `Decimal.round_bounds`: how many bits a rounded number has;
* `Decimal.eq_of_near_one`: the numbers nearest to one;
* `flagOfNumber?_eq_some_iff`: a finite number stands for a flag if its distance to zero
  or one is below the machine precision.
-/

namespace Lifelines

namespace Decimal

open Float.Model (UnpackedFloat totalExponent)
open Float.Model.Format (binary64)
open Float.Model.UnpackedFloat hiding round normalize

/-- The parts of one. -/
def one : UnpackedFloat :=
  .finite .positive (2 ^ 52) (-52) (by decide)

/-- Whether the absolute value of a number, once it is stored, is below the machine
    precision. -/
def isTiny (u : UnpackedFloat) : Bool :=
  (unpack binary64 (pack binary64 u)).abs.lt machinePrecision.toModel.unpack

theorem isFinite_machinePrecision : machinePrecision.isFinite = true := by decide

theorem unpack_machinePrecision :
    machinePrecision.toModel.unpack = .finite .positive (2 ^ 52) (-104) (by decide) := rfl

theorem rational_machinePrecision : rational machinePrecision = 2 ^ (-52 : Int) := by
  rw [rational, unpack_machinePrecision, value_positive]
  norm_num

/-! ### Rounding -/

/-- Bits that are shifted out are lost from the mantissa. -/
theorem mantissa_shiftRight (em : ExtendedMantissa) (k : Nat) :
    (em >>> k).mantissa = em.mantissa / 2 ^ k := by
  change (Nat.repeat ExtendedMantissa.shiftRightOne k em).mantissa = _
  induction k with
  | zero => simp [Nat.repeat]
  | succ k ih =>
    rw [Nat.repeat, ExtendedMantissa.shiftRightOne, ih, Nat.div_div_eq_div_mul, pow_succ]

/-- A mantissa is rounded up or left as it is. -/
theorem mantissa_le_roundedMantissa (em : ExtendedMantissa) :
    em.mantissa ≤ em.roundedMantissa := by
  obtain ⟨m, roundBit, stickyBit⟩ := em
  cases roundBit <;> cases stickyBit <;>
    simp [ExtendedMantissa.roundedMantissa, ExtendedMantissa.accuracy, Accuracy.roundToNearestEven]

section

variable {m : Nat} {e : Int}

theorem shiftLeft_pos (hm : 0 < m) (k : Nat) : 0 < m <<< k := by
  rw [Nat.shiftLeft_eq]
  positivity

/-- Shifting to the left moves the leading bit. -/
theorem log2_shiftLeft (hm : 0 < m) (k : Nat) : (m <<< k).log2 = m.log2 + k := by
  induction k with
  | zero => rfl
  | succ k ih => rw [Nat.shiftLeft_succ, Nat.log2_two_mul (shiftLeft_pos hm k).ne', ih, add_assoc]

/-- Above the least exponent, a number is rounded to 53 bits. -/
theorem targetExponent_eq (he : -1074 ≤ m.log2 + e - 52) :
    binary64.targetExponent (totalExponent m e) = m.log2 + e - 52 := by
  change max (m.log2 + 1 + e - 53) (-1074) = m.log2 + e - 52
  omega

/-- A mantissa of at least 53 bits is cut down to as many. -/
theorem shiftToTargetExponent_bounds (hm : 2 ^ 52 ≤ m) (he : -1074 ≤ m.log2 + e - 52) :
    2 ^ 52 ≤ (shiftToTargetExponent binary64 m e .exact).1.mantissa ∧
      (shiftToTargetExponent binary64 m e .exact).1.mantissa < 2 ^ 53 ∧
      (shiftToTargetExponent binary64 m e .exact).2 = m.log2 + e - 52 := by
  have hpos : m ≠ 0 := by omega
  have hbits : 52 ≤ m.log2 := (Nat.le_log2 hpos).2 hm
  have hshift : (m.log2 + e - 52 - e).toNat = m.log2 - 52 := by omega
  rw [shiftToTargetExponent, targetExponent_eq he, shiftToExponent, hshift, mantissa_shiftRight]
  change 2 ^ 52 ≤ m / 2 ^ (m.log2 - 52) ∧ m / 2 ^ (m.log2 - 52) < 2 ^ 53 ∧
    e + (m.log2 - 52 : Nat) = m.log2 + e - 52
  refine ⟨?_, ?_, by omega⟩
  · rw [Nat.le_div_iff_mul_le (by positivity), ← pow_add, Nat.add_sub_cancel' hbits]
    exact Nat.log2_self_le hpos
  · have hsum : 53 + (m.log2 - 52) = m.log2 + 1 := by omega
    rw [Nat.div_lt_iff_lt_mul (by positivity), ← pow_add, hsum]
    exact Nat.lt_log2_self

/-- A number with 53 bits or more is rounded to one with 53 bits that is no smaller in its
    exponent. -/
theorem roundWithAccuracy_bounds (s : Sign) (hm : 2 ^ 52 ≤ m) (he : -1074 ≤ m.log2 + e - 52) :
    ∃ m' e', ∃ hm' : 0 < m', roundWithAccuracy binary64 s m e .exact = .finite s m' e' hm' ∧
      2 ^ 52 ≤ m' ∧ m' < 2 ^ 53 ∧ m.log2 + e - 52 ≤ e' := by
  obtain ⟨hlow, -, hexponent⟩ := shiftToTargetExponent_bounds hm he
  generalize hfirst : shiftToTargetExponent binary64 m e .exact = first at *
  obtain ⟨em, e₁⟩ := first
  dsimp only at hlow hexponent
  -- rounding up may give a bit more, which the second shift takes away
  have hrounded : 2 ^ 52 ≤ em.roundedMantissa := hlow.trans (mantissa_le_roundedMantissa em)
  have hbits : 52 ≤ em.roundedMantissa.log2 := (Nat.le_log2 (by omega)).2 hrounded
  obtain ⟨hlow', hhigh', hexponent'⟩ := shiftToTargetExponent_bounds (e := e₁) hrounded (by omega)
  rw [roundWithAccuracy, hfirst]
  dsimp only
  rw [dif_neg (by omega)]
  exact ⟨_, _, _, rfl, hlow', hhigh', by omega⟩

/-- A number that is not too small is rounded to 53 bits, and it keeps its magnitude. -/
theorem round_bounds (s : Sign) (hm : 0 < m) (he : -1074 ≤ m.log2 + e - 52) :
    ∃ m' e', ∃ hm' : 0 < m', UnpackedFloat.round binary64 s m e = .finite s m' e' hm' ∧
      2 ^ 52 ≤ m' ∧ m' < 2 ^ 53 ∧ m.log2 + e - 52 ≤ e' := by
  rw [UnpackedFloat.round, targetExponent_eq he]
  dsimp only [decreaseExponent]
  generalize hk : (e - (m.log2 + e - 52)).toNat = k
  have hlog := log2_shiftLeft hm k
  -- shifted up, the mantissa has 53 bits at least, at the same magnitude
  have hbits : 2 ^ 52 ≤ m <<< k := by
    rw [← Nat.le_log2 (shiftLeft_pos hm k).ne', hlog]
    omega
  have hround := roundWithAccuracy_bounds s (e := e - k) hbits (by omega)
  have hsame : ((m.log2 + k : Nat) : Int) + (e - k) - 52 = m.log2 + e - 52 := by omega
  rwa [hlog, hsame] at hround

/-- The leading bit of a number that is large enough has a place that is high enough. -/
theorem le_log2_of_le {k : Int} (h : (2 : ℚ) ^ k ≤ m * 2 ^ e) : k ≤ m.log2 + e := by
  have hm : (m : ℚ) < 2 ^ ((m.log2 + 1 : Nat) : Int) := by
    rw [zpow_natCast]
    exact_mod_cast Nat.lt_log2_self
  have hlt : (2 : ℚ) ^ k < 2 ^ (((m.log2 + 1 : Nat) : Int) + e) := by
    rw [zpow_add₀ two_ne_zero]
    exact h.trans_lt (by gcongr)
  have hk := (zpow_lt_zpow_iff_right₀ one_lt_two).1 hlt
  omega

/-! ### Numbers that are not rounded below the machine precision -/

/-- A number is not tiny if its leading bit is not. -/
theorem not_isTiny_finite {s : Sign} (hm : 0 < m) (hlow : 2 ^ 52 ≤ m) (hhigh : m < 2 ^ 53)
    (he : -104 ≤ e) : ¬isTiny (.finite s m e hm) := by
  rw [isTiny, unpack_machinePrecision, UnpackedFloat.lt, beq_iff_eq]
  by_cases hlarge : e ≤ 971
  · rw [unpack_pack_finite hm ⟨hhigh, by omega, hlarge, .inl hlow⟩]
    change ¬some ((compare e (-104)).then (compare m (2 ^ 52))) = some .lt
    simp only [Option.some.injEq, Ordering.then_eq_lt, compare_lt_iff_lt, compare_eq_iff_eq]
    omega
  · rw [unpack_pack_of_large hm (by omega)]
    exact nofun

/-- What is not below the machine precision is not rounded below it. -/
theorem not_isTiny_round (s : Sign) (h : (2 : ℚ) ^ (-52 : Int) ≤ m * 2 ^ e) :
    ¬isTiny (UnpackedFloat.round binary64 s m e) := by
  have hm : 0 < m := by
    rcases Nat.eq_zero_or_pos m with rfl | hm
    · norm_num at h
    · exact hm
  have hlog := le_log2_of_le h
  obtain ⟨m', e', hm', hround, hlow, hhigh, he⟩ := round_bounds s hm (e := e) (by omega)
  rw [hround]
  exact not_isTiny_finite hm' hlow hhigh (by omega)

/-- The same for a number with a sign. -/
theorem not_isTiny_normalize {n : Int} (h : (2 : ℚ) ^ (-52 : Int) ≤ |(n : ℚ) * 2 ^ e|) :
    ¬isTiny (UnpackedFloat.normalize binary64 n e .positive) := by
  have hpos : (0 : ℚ) < 2 ^ e := by positivity
  have habs : |(n : ℚ)| = (n.natAbs : Nat) := by rw [Nat.cast_natAbs, Int.cast_abs]
  rw [abs_mul, abs_of_pos hpos, habs] at h
  rcases lt_trichotomy n 0 with hn | rfl | hn
  · have htoNat : (-n).toNat = n.natAbs := by omega
    rw [UnpackedFloat.normalize, compare_lt_iff_lt.2 hn, htoNat]
    exact not_isTiny_round _ h
  · norm_num at h
  · have htoNat : n.toNat = n.natAbs := by omega
    rw [UnpackedFloat.normalize, compare_gt_iff_gt.2 hn, htoNat]
    exact not_isTiny_round _ h

/-! ### The difference to one -/

/-- Moving bits from the exponent to the mantissa does not change the number. -/
theorem shiftLeft_mul_zpow {e' : Int} (h : e' ≤ e) :
    ((m <<< (e - e').toNat : Nat) : ℚ) * 2 ^ e' = m * 2 ^ e := by
  rw [Nat.shiftLeft_eq, Nat.cast_mul, Nat.cast_pow, Nat.cast_ofNat, mul_assoc, ← zpow_natCast,
    ← zpow_add₀ two_ne_zero, Int.toNat_of_nonneg (by omega), sub_add_cancel]

/-- The difference to one is exact before it is rounded. -/
theorem exists_sub_one (s : Sign) (hm : 0 < m) : ∃ (n : Int) (e' : Int),
    UnpackedFloat.sub binary64 (.finite s m e hm) one =
      UnpackedFloat.normalize binary64 n e' .positive ∧
    value (.finite s m e hm) - 1 = n * 2 ^ e' := by
  refine ⟨_, _, rfl, ?_⟩
  have hm' := shiftLeft_mul_zpow (m := m) (min_le_left e (-52))
  have hone : ((2 ^ 52 <<< (-52 - min e (-52)).toNat : Nat) : ℚ) * 2 ^ min e (-52) = 1 :=
    (shiftLeft_mul_zpow (min_le_right e (-52))).trans (by norm_num)
  cases s with
  | positive =>
    rw [value_positive]
    simp only [Sign.apply, Int.cast_sub, Int.cast_natCast, sub_mul, hm', hone]
  | negative =>
    rw [value_negative]
    simp only [Sign.apply, Int.cast_sub, Int.cast_neg, Int.cast_natCast, sub_mul, neg_mul, hm',
      hone]

/-- The only numbers nearer to one than the machine precision are one itself and the one
    just below it. -/
theorem eq_of_near_one {s : Sign} {hm : 0 < m} (hcanonical : Canonical m e)
    (h : |value (.finite s m e hm) - 1| < 2 ^ (-52 : Int)) :
    s = .positive ∧ (m = 2 ^ 52 ∧ e = -52 ∨ m = 2 ^ 53 - 1 ∧ e = -53) := by
  obtain ⟨hlow, hhigh⟩ := abs_lt.1 h
  have hpos : (0 : ℚ) < m * 2 ^ e := by positivity
  cases s with
  | negative =>
    rw [value_negative] at hlow
    norm_num at hlow
    linarith
  | positive =>
    rw [value_positive] at hlow hhigh
    -- the number lies between the second one below one and the first one above it
    have hbelow : Canonical (2 ^ 53 - 2) (-53) := ⟨by decide, by decide, by decide, by decide⟩
    have habove : Canonical (2 ^ 52 + 1) (-52) := ⟨by decide, by decide, by decide, by decide⟩
    have hlow' := (mul_zpow_lt_iff hbelow hcanonical).1 (by norm_num at hlow ⊢; linarith)
    have hhigh' := (mul_zpow_lt_iff hcanonical habove).1 (by norm_num at hhigh ⊢; linarith)
    obtain ⟨hfits, -, -, hleading⟩ := hcanonical
    exact ⟨rfl, by omega⟩

end

/-! ### Distances to zero and to one -/

variable {x : Float}

/-- A number is tested against the machine precision as the rational number that it stands for.
    -/
theorem abs_lt_machinePrecision_iff (hx : x.isFinite = true) :
    x.abs < machinePrecision ↔ |rational x| < 2 ^ (-52 : Int) := by
  rw [lt_iff_rational_lt (by rw [isFinite_abs, hx]) isFinite_machinePrecision, rational_abs,
    rational_machinePrecision]

/-- The test whether a number is near one looks at the difference, once it is stored. -/
theorem abs_sub_one_lt_iff_isTiny : (x - 1.0).abs < machinePrecision ↔
    isTiny (UnpackedFloat.sub binary64 x.toModel.unpack one) := by
  rw [lt_iff_compare, unpack_abs, isTiny, UnpackedFloat.lt, beq_iff_eq]
  exact Iff.rfl

theorem isTiny_one_sub_one : isTiny (UnpackedFloat.sub binary64 one one) := by decide

theorem isTiny_below_one_sub_one : isTiny (UnpackedFloat.sub binary64
    (.finite .positive (2 ^ 53 - 1) (-53) (by decide)) one) := by decide

/-- That a difference is rounded makes no difference. -/
theorem abs_sub_one_lt_machinePrecision_iff (hx : x.isFinite = true) :
    (x - 1.0).abs < machinePrecision ↔ |rational x - 1| < 2 ^ (-52 : Int) := by
  rw [abs_sub_one_lt_iff_isTiny, rational]
  obtain ⟨s, hu⟩ | ⟨s, m, e, hm, hu, hcanonical⟩ := unpack_of_isFinite hx <;> rw [hu]
  · have hfar : ¬isTiny (UnpackedFloat.sub binary64 (.zero s) one) :=
      not_isTiny_finite _ le_rfl (by decide) (by decide)
    have hzero : value (.zero s) = 0 := rfl
    exact iff_of_false hfar (by norm_num [hzero])
  · constructor
    · intro hlt
      by_contra hfar
      obtain ⟨n, e', hsub, hvalue⟩ := exists_sub_one s hm (e := e)
      rw [hsub] at hlt
      rw [hvalue, not_lt] at hfar
      exact not_isTiny_normalize hfar hlt
    · -- only one itself and the number just below it are as near
      intro hnear
      obtain ⟨rfl, ⟨rfl, rfl⟩ | ⟨rfl, rfl⟩⟩ := eq_of_near_one hcanonical hnear
      · exact isTiny_one_sub_one
      · exact isTiny_below_one_sub_one

end Decimal

/-- A finite number stands for a flag if it is nearer to the digit of the flag than the
    machine precision. -/
theorem flagOfNumber?_eq_some_iff {x : Float} (hx : x.isFinite = true) (b : Bool) :
    flagOfNumber? x = some b ↔ |Decimal.rational x - b.toNat| < 2 ^ (-52 : Int) := by
  have hzero := Decimal.abs_lt_machinePrecision_iff hx
  have hone := Decimal.abs_sub_one_lt_machinePrecision_iff hx
  -- no number is near to both
  have happart : |Decimal.rational x| < 2 ^ (-52 : Int) →
      ¬|Decimal.rational x - 1| < 2 ^ (-52 : Int) := by
    intro hnear hnear'
    norm_num [abs_lt] at hnear hnear'
    linarith
  rw [flagOfNumber?]
  simp only [hzero, hone]
  cases b with
  | false => simp
  | true =>
    rw [Bool.toNat_true, Nat.cast_one]
    split_ifs with hnear hnear'
    · exact iff_of_false (by simp) (happart hnear)
    · exact iff_of_true rfl hnear'
    · exact iff_of_false nofun hnear'

/-- The number just below one is near enough, the one just above it is not. -/
example : flagOfNumber? 0.9999999999999999 = some true ∧
    flagOfNumber? 1.0000000000000002 = none := by
  decide

end Lifelines
