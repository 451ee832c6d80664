import Mathlib.Algebra.Order.Field.Power
import Mathlib.Algebra.Order.Field.Rat
import Mathlib.Tactic.GCongr
import Mathlib.Tactic.Linarith
import Mathlib.Tactic.Positivity

/-!
# Floating-point numbers as rational numbers

A finite 64-bit number is zero or `m * 2 ^ e` up to its sign, where the mantissa `m` has
53 bits unless the exponent `e` is the least one. This makes the two parts unique, so
that numbers are stored without loss and can be compared part by part: the comparison is
that of the rational numbers that they stand for.

* `Decimal.Canonical`: the mantissas and exponents of the numbers that are stored;
* `Decimal.rational`: the rational number that a finite number stands for;
* `Decimal.unpack_pack_finite`: a number is read back from its bits;
* `Decimal.unpack_of_isFinite`: the parts of a finite number;
* `Decimal.lt_iff_rational_lt`: finite numbers are ordered as rational numbers;
* `Decimal.beq_self_of_isFinite`: a finite number equals itself.
-/

namespace Lifelines.Decimal

open Float.Model (UnpackedFloat)
open Float.Model.Format (binary64)
open Float.Model.UnpackedFloat

/-- The parts of a number that is stored: the leading bit of the mantissa is set unless
    the exponent is the least one. -/
structure Canonical (m : Nat) (e : Int) : Prop where
  fits : m < 2 ^ 53
  least : -1074 ≤ e
  greatest : e ≤ 971
  leading : 2 ^ 52 ≤ m ∨ e = -1074

/-- The rational number that the parts of a finite number stand for. -/
def value : UnpackedFloat → ℚ
  | .finite s m e _ => s.apply m * 2 ^ e
  | _ => 0

/-- The rational number that a finite number stands for. -/
def rational (x : Float) : ℚ :=
  value x.toModel.unpack

theorem value_positive {m : Nat} (e : Int) (hm : 0 < m) :
    value (.finite .positive m e hm) = m * 2 ^ e := rfl

theorem value_negative {m : Nat} (e : Int) (hm : 0 < m) :
    value (.finite .negative m e hm) = -(m * 2 ^ e) := by
  change ((-m : Int) : ℚ) * 2 ^ e = _
  rw [Int.cast_neg, Int.cast_natCast, neg_mul]

/-! ### Bits -/

section

variable {s : Sign} {m : Nat} {e : Int}

theorem toNat_implicit {w : Nat} (b : BitVec w) : (1#1 ++ b).toNat = 2 ^ w + b.toNat := by
  rw [BitVec.toNat_append, Nat.shiftLeft_eq, Nat.mul_comm, ← Nat.two_pow_add_eq_or_of_lt b.isLt]
  simp

/-- A mantissa that fits has its leading bit set if it is at least `2 ^ 52`. -/
theorem log2_eq_52_iff (hm : 0 < m) (hfits : m < 2 ^ 53) : m.log2 = 52 ↔ 2 ^ 52 ≤ m := by
  have hle : 52 ≤ m.log2 ↔ 2 ^ 52 ≤ m := Nat.le_log2 hm.ne'
  have hlt : m.log2 < 53 := (Nat.log2_lt hm.ne').2 hfits
  omega

/-- The parts that are read from the bits of a finite number are canonical. -/
theorem canonical_of_unpack {b : BitVec 64} {hm : 0 < m}
    (h : unpack binary64 b = .finite s m e hm) : Canonical m e := by
  have hbias : binary64.exponentBias = 1023 := rfl
  have hmantissa : (@unpackMantissa binary64 b).toNat < 2 ^ 52 := (@unpackMantissa binary64 b).isLt
  have hexponent : (@unpackExponent binary64 b).toNat < 2 ^ 11 := (@unpackExponent binary64 b).isLt
  delta unpack at h
  dsimp only at h
  by_cases hones : @unpackExponent binary64 b = -1#11
  · rw [if_pos hones] at h
    by_cases hnone : @unpackMantissa binary64 b = 0#52
    · rw [if_pos hnone] at h
      cases h
    · rw [if_neg hnone] at h
      cases h
  · rw [if_neg hones] at h
    by_cases hzero : @unpackExponent binary64 b = 0#11
    · rw [if_pos hzero] at h
      by_cases hnone : @unpackMantissa binary64 b = 0#52
      · rw [dif_pos hnone] at h
        cases h
      · rw [dif_neg hnone] at h
        cases h
        rw [hzero, hbias]
        exact ⟨by omega, by simp, by simp, .inr (by simp)⟩
    · rw [if_neg hzero] at h
      -- the leading bit is not stored
      cases h
      have hne : (@unpackExponent binary64 b).toNat ≠ 2047 := fun heq =>
        hones (BitVec.eq_of_toNat_eq heq)
      have hpos : (@unpackExponent binary64 b).toNat ≠ 0 := fun heq =>
        hzero (BitVec.eq_of_toNat_eq heq)
      have hleading : (1#1 ++ @unpackMantissa binary64 b).toNat =
          2 ^ 52 + (@unpackMantissa binary64 b).toNat := toNat_implicit _
      rw [hleading, hbias]
      refine ⟨by omega, ?_, ?_, .inl (by omega)⟩
      · simp
        omega
      · simp
        omega

/-- The bits that a finite number is stored in. -/
theorem pack_finite (hm : 0 < m) : pack binary64 (.finite s m e hm) =
    if 2 ^ 11 ≤ (e + (1023 : Nat) + (52 : Nat)).toNat + 1 then packedInfinity binary64 s
    else if m.log2 + 1 = 53 then
      packComponents binary64 s (BitVec.ofNat 11 (e + (1023 : Nat) + (52 : Nat)).toNat)
        (BitVec.ofNat 52 m)
    else packComponents binary64 s 0#11 (BitVec.ofNat 52 m) := rfl

theorem unpack_pack_infinity (s : Sign) :
    unpack binary64 (pack binary64 (.infinity s)) = .infinity s := by
  cases s <;> rfl

/-- A number whose exponent does not fit is stored as an infinity. -/
theorem unpack_pack_of_large (hm : 0 < m) (he : 971 < e) :
    unpack binary64 (pack binary64 (.finite s m e hm)) = .infinity s := by
  have hpack : pack binary64 (.finite s m e hm) = packedInfinity binary64 s := by
    rw [pack_finite, if_pos]
    omega
  rw [hpack]
  exact unpack_pack_infinity s

/-- The sign is the first bit. -/
theorem ofBitVec_unpackSign (s : Sign) (exponent : BitVec 11) (mantissa : BitVec 52) :
    Sign.ofBitVec (@unpackSign binary64 (packComponents binary64 s exponent mantissa)) = s := by
  change Sign.ofBitVec (BitVec.extractLsb' 63 1 (s.toBitVec ++ exponent ++ mantissa)) = s
  rw [BitVec.extractLsb'_append_eq_of_le (by decide),
    BitVec.extractLsb'_append_eq_of_le (by decide)]
  cases s <;> rfl

/-- The leading bit of the mantissa is not stored if the exponent is above the least one. -/
theorem unpack_packComponents_normal {stored : Nat} (hm : 0 < m) (hleading : 2 ^ 52 ≤ m)
    (hfits : m < 2 ^ 53) (hpos : 0 < stored) (hlt : stored < 2047) :
    unpack binary64 (packComponents binary64 s (BitVec.ofNat 11 stored) (BitVec.ofNat 52 m)) =
      .finite s m (stored - 1075) hm := by
  have hbias : binary64.exponentBias = 1023 := rfl
  have hexponent : (BitVec.ofNat 11 stored).toNat = stored := by
    rw [BitVec.toNat_ofNat, Nat.mod_eq_of_lt (by omega)]
  -- neither of the exponents that are set apart
  have hones : BitVec.ofNat 11 stored ≠ -1#11 := fun heq => by
    have htoNat : stored = 2047 := by rw [← hexponent, heq]; rfl
    omega
  have hzero : BitVec.ofNat 11 stored ≠ 0#11 := fun heq => by
    have htoNat : stored = 0 := by rw [← hexponent, heq]; rfl
    omega
  have hmantissa : (1#1 ++ BitVec.ofNat 52 m).toNat = m := by
    rw [toNat_implicit, BitVec.toNat_ofNat]
    omega
  delta unpack
  dsimp only
  rw [unpackExponent_packComponents, if_neg hones, if_neg hzero, finite.injEq,
    unpackMantissa_packComponents, ofBitVec_unpackSign, hbias, hexponent]
  exact ⟨rfl, hmantissa, by omega⟩

/-- A mantissa without the leading bit is stored with the least exponent. -/
theorem unpack_packComponents_subnormal (hm : 0 < m) (hfits : m < 2 ^ 52) :
    unpack binary64 (packComponents binary64 s 0#11 (BitVec.ofNat 52 m)) =
      .finite s m (-1074) hm := by
  have hbias : binary64.exponentBias = 1023 := rfl
  have hmantissa : (BitVec.ofNat 52 m).toNat = m := by
    rw [BitVec.toNat_ofNat, Nat.mod_eq_of_lt hfits]
  have hzero : BitVec.ofNat 52 m ≠ 0#52 := fun heq => by
    rw [heq] at hmantissa
    exact hm.ne hmantissa
  delta unpack
  dsimp only
  rw [unpackExponent_packComponents, if_neg (by decide), if_pos rfl,
    dif_neg (by rwa [unpackMantissa_packComponents]), finite.injEq,
    unpackMantissa_packComponents, ofBitVec_unpackSign, hbias]
  exact ⟨rfl, hmantissa, by simp⟩

/-- A number with canonical parts is read back from its bits. -/
theorem unpack_pack_finite (hm : 0 < m) (h : Canonical m e) :
    unpack binary64 (pack binary64 (.finite s m e hm)) = .finite s m e hm := by
  obtain ⟨hfits, hleast, hgreatest, hleading⟩ := h
  generalize hstored : (e + (1023 : Nat) + (52 : Nat)).toNat = stored
  have hlarge : ¬2 ^ 11 ≤ stored + 1 := by omega
  by_cases hnormal : 2 ^ 52 ≤ m
  · have hpack : pack binary64 (.finite s m e hm) =
        packComponents binary64 s (BitVec.ofNat 11 stored) (BitVec.ofNat 52 m) := by
      rw [pack_finite, hstored, if_neg hlarge, if_pos]
      exact congrArg Nat.succ ((log2_eq_52_iff hm hfits).2 hnormal)
    have hexponent : (stored : Int) - 1075 = e := by omega
    rw [hpack, unpack_packComponents_normal hm hnormal hfits (by omega) (by omega), hexponent]
  · have hpack : pack binary64 (.finite s m e hm) =
        packComponents binary64 s 0#11 (BitVec.ofNat 52 m) := by
      rw [pack_finite, hstored, if_neg hlarge, if_neg]
      exact fun heq => hnormal ((log2_eq_52_iff hm hfits).1 (Nat.succ.inj heq))
    -- canonical parts without the leading bit have the least exponent
    obtain rfl := hleading.resolve_left hnormal
    rw [hpack, unpack_packComponents_subnormal hm (not_le.1 hnormal)]

end

/-! ### Absolute values -/

/-- The absolute value is taken of the parts; storing it loses nothing. -/
theorem unpack_abs (x : Float) : x.abs.toModel.unpack = x.toModel.unpack.abs := by
  change unpack binary64 (pack binary64 x.toModel.unpack.abs) = _
  cases hu : x.toModel.unpack with
  | notANumber => rfl
  | infinity s => exact unpack_pack_infinity .positive
  | zero s => cases s <;> rfl
  | finite s m e hm => exact unpack_pack_finite hm (canonical_of_unpack hu)

/-- The absolute value of the parts stands for that of the rational number. -/
theorem value_abs (u : UnpackedFloat) : value u.abs = |value u| := by
  cases u with
  | finite s m e hm =>
    have hpos : (0 : ℚ) ≤ m * 2 ^ e := by positivity
    change value (.finite .positive m e hm) = _
    cases s with
    | positive => rw [value_positive, abs_of_nonneg hpos]
    | negative => rw [value_positive, value_negative, abs_neg, abs_of_nonneg hpos]
  | _ => exact abs_zero.symm

theorem rational_abs (x : Float) : rational x.abs = |rational x| := by
  rw [rational, unpack_abs, value_abs, rational]

/-- An absolute value is finite if the number is. -/
theorem isFinite_abs (x : Float) : x.abs.isFinite = x.isFinite := by
  change x.abs.toModel.unpack.isFinite = x.toModel.unpack.isFinite
  rw [unpack_abs]
  cases x.toModel.unpack <;> rfl

/-! ### Order -/

section

variable {m m' : Nat} {e e' : Int}

/-- Of two canonical pairs the one with the smaller exponent is the smaller number, whatever
    the mantissas. -/
theorem mul_zpow_lt_of_exponent_lt (h : Canonical m e) (h' : Canonical m' e') (he : e < e') :
    (m : ℚ) * 2 ^ e < m' * 2 ^ e' := by
  have hm : (m : ℚ) < 2 ^ (53 : Int) := by exact_mod_cast h.fits
  have hm' : (2 : ℚ) ^ (52 : Int) ≤ m' := by
    -- the exponent is not the least one
    have hne : e' ≠ -1074 := (h.least.trans_lt he).ne'
    exact_mod_cast h'.leading.resolve_right hne
  calc (m : ℚ) * 2 ^ e < 2 ^ (53 : Int) * 2 ^ e := by gcongr
    _ = 2 ^ (53 + e) := (zpow_add₀ two_ne_zero _ _).symm
    _ ≤ 2 ^ (52 + e') := zpow_le_zpow_right₀ one_le_two (by omega)
    _ = 2 ^ (52 : Int) * 2 ^ e' := zpow_add₀ two_ne_zero _ _
    _ ≤ m' * 2 ^ e' := by gcongr

/-- Canonical parts are compared one after the other. -/
theorem mul_zpow_lt_iff (h : Canonical m e) (h' : Canonical m' e') :
    (m : ℚ) * 2 ^ e < m' * 2 ^ e' ↔ e < e' ∨ e = e' ∧ m < m' := by
  rcases lt_trichotomy e e' with he | rfl | he
  · simp [he, mul_zpow_lt_of_exponent_lt h h' he]
  · have hpos : (0 : ℚ) < 2 ^ e := by positivity
    simp [mul_lt_mul_iff_left₀ hpos]
  · have hlt := mul_zpow_lt_of_exponent_lt h' h he
    simp [he.not_gt, he.ne', hlt.not_gt]

end

variable {x y : Float}

/-- A finite number is zero or it has canonical parts. -/
theorem unpack_of_isFinite (hx : x.isFinite = true) : (∃ s, x.toModel.unpack = .zero s) ∨
    ∃ s m e, ∃ hm : 0 < m, x.toModel.unpack = .finite s m e hm ∧ Canonical m e := by
  change x.toModel.unpack.isFinite = true at hx
  cases hu : x.toModel.unpack with
  | notANumber | infinity s =>
    rw [hu] at hx
    cases hx
  | zero s => exact .inl ⟨s, rfl⟩
  | finite s m e hm => exact .inr ⟨s, m, e, hm, rfl, canonical_of_unpack hu⟩

theorem lt_iff_compare : x < y ↔ x.toModel.unpack.compare y.toModel.unpack = some .lt := by
  change decide ((x.toModel.unpack.compare y.toModel.unpack == some .lt) = true) = true ↔ _
  rw [decide_eq_true_eq, beq_iff_eq]

/-- Numbers with canonical parts are ordered as the rational numbers that they stand for. -/
theorem compare_finite_iff {s s' : Sign} {m m' : Nat} {e e' : Int} {hm : 0 < m} {hm' : 0 < m'}
    (h : Canonical m e) (h' : Canonical m' e') :
    UnpackedFloat.compare (.finite s m e hm) (.finite s' m' e' hm') = some .lt ↔
      value (.finite s m e hm) < value (.finite s' m' e' hm') := by
  have hpos : (0 : ℚ) < m * 2 ^ e := by positivity
  have hpos' : (0 : ℚ) < m' * 2 ^ e' := by positivity
  cases s with
  | negative =>
    rw [value_negative]
    cases s' with
    | negative =>
      -- the order of the absolute values is turned around
      rw [value_negative, neg_lt_neg_iff, mul_zpow_lt_iff h' h]
      change some ((compare e e').then (compare m m')).swap = some .lt ↔ _
      simp [Ordering.then_eq_gt, compare_gt_iff_gt, @eq_comm _ e']
    | positive =>
      rw [value_positive]
      exact iff_of_true rfl (by linarith)
  | positive =>
    rw [value_positive]
    cases s' with
    | negative =>
      rw [value_negative]
      exact iff_of_false nofun (by linarith)
    | positive =>
      rw [value_positive, mul_zpow_lt_iff h h']
      change some ((compare e e').then (compare m m')) = some .lt ↔ _
      simp [Ordering.then_eq_lt, compare_lt_iff_lt]

/-- Finite numbers are ordered as the rational numbers that they stand for. -/
theorem lt_iff_rational_lt (hx : x.isFinite = true) (hy : y.isFinite = true) :
    x < y ↔ rational x < rational y := by
  rw [lt_iff_compare, rational, rational]
  obtain ⟨s, hu⟩ | ⟨s, m, e, hm, hu, h⟩ := unpack_of_isFinite hx <;>
    obtain ⟨s', hv⟩ | ⟨s', m', e', hm', hv, h'⟩ := unpack_of_isFinite hy <;> rw [hu, hv]
  · exact iff_of_false nofun (lt_irrefl (0 : ℚ))
  · have hpos : (0 : ℚ) < m' * 2 ^ e' := by positivity
    cases s' with
    | positive => exact iff_of_true rfl hpos
    | negative =>
      rw [value_negative]
      exact iff_of_false nofun (neg_neg_of_pos hpos).not_gt
  · have hpos : (0 : ℚ) < m * 2 ^ e := by positivity
    cases s with
    | positive => exact iff_of_false nofun hpos.not_gt
    | negative =>
      rw [value_negative]
      exact iff_of_true rfl (neg_neg_of_pos hpos)
  · exact compare_finite_iff h h'

/-- A finite number equals itself; only what is not a number does not. -/
theorem beq_self_of_isFinite (hx : x.isFinite = true) : (x == x) = true := by
  change (x.toModel.unpack.compare x.toModel.unpack == some .eq) = true
  obtain ⟨s, hu⟩ | ⟨s, m, e, hm, hu, -⟩ := unpack_of_isFinite hx <;> rw [hu]
  · rfl
  · have hsame : (compare e e).then (compare m m) = .eq := by simp
    cases s with
    | positive =>
      change (some ((compare e e).then (compare m m)) == some .eq) = true
      rw [hsame]
      rfl
    | negative =>
      change (some ((compare e e).then (compare m m)).swap == some .eq) = true
      rw [hsame]
      rfl

end Lifelines.Decimal
