import Mathlib
import AggregateStage.Binary64

/-! The fields of a double. The sign, exponent and significand that its bits hold are the ones
that the operations on doubles take apart and put together again. -/
namespace AggregateStage.Binary64

open Float.Model (Format)
open Float.Model.UnpackedFloat

variable {x : Float}

/-- Neither an infinity nor no number. -/
def IsFinite (x : Float) : Prop := exponent x ≠ 2047

instance : Decidable (IsFinite x) := inferInstanceAs (Decidable (_ ≠ _))

def sign (x : Float) : Sign := if negative x then .negative else .positive

/-- The power of two that the significand of a finite double counts. -/
def power (x : Float) : ℤ := max (exponent x : ℤ) 1 - 1075

/-- The significand and the power that a finite double can have: every bit of the significand is
in use, save below the smallest normal doubles. -/
structure Canonical (mantissa : ℕ) (power : ℤ) : Prop where
  narrow : mantissa < 2 ^ 53
  low : -1074 ≤ power
  full : 2 ^ 52 ≤ mantissa ∨ power = -1074

theorem exponent_lt (x : Float) : exponent x < 2 ^ 11 := Nat.mod_lt _ (by decide)

theorem fraction_lt (x : Float) : fraction x < 2 ^ 52 := Nat.mod_lt _ (by decide)

theorem significand_lt (x : Float) : significand x < 2 ^ 53 := by
  have small := fraction_lt x
  rw [significand, Nat.pow_eq]
  split <;> omega

theorem canonical (x : Float) : Canonical (significand x) (power x) where
  narrow := significand_lt x
  low := by unfold power; omega
  full := by
    rw [significand, power, Nat.pow_eq]
    split
    · right; omega
    · left; omega

theorem power_le (finite : IsFinite x) : power x ≤ 971 := by
  have small := exponent_lt x
  unfold IsFinite at finite
  unfold power
  omega

theorem toNat_bits (x : Float) : x.toModel.toBits.toBitVec.toNat = x.toBits.toNat := rfl

theorem toNat_exponent (x : Float) :
    (@unpackExponent Format.binary64 x.toModel.toBits.toBitVec).toNat = exponent x := by
  rw [unpackExponent_def, BitVec.extractLsb'_toNat, toNat_bits, Nat.shiftRight_eq_div_pow]
  rfl

theorem toNat_fraction (x : Float) :
    (@unpackMantissa Format.binary64 x.toModel.toBits.toBitVec).toNat = fraction x := by
  rw [unpackMantissa_def, BitVec.extractLsb'_toNat, toNat_bits, Nat.shiftRight_zero]
  rfl

theorem ofBitVec_sign (x : Float) :
    Sign.ofBitVec (@unpackSign Format.binary64 x.toModel.toBits.toBitVec) = sign x := by
  have high : (@unpackSign Format.binary64 x.toModel.toBits.toBitVec).toNat =
      x.toBits.toNat / 2 ^ 63 % 2 := by
    rw [unpackSign_def, BitVec.extractLsb'_toNat, toNat_bits, Nat.shiftRight_eq_div_pow]
    rfl
  have bound := x.toBits.toNat_lt
  have clear : @unpackSign Format.binary64 x.toModel.toBits.toBitVec = 0#1 ↔
      ¬negative x = true := by
    rw [← BitVec.toNat_inj, high, negative, decide_eq_true_eq, Nat.pow_eq]
    simp only [BitVec.toNat_ofNat]
    omega
  simp only [Sign.ofBitVec, sign, clear]
  split <;> simp_all

/-- All bits of the exponent are set exactly when the double is no finite number. -/
theorem exponent_ones (x : Float) :
    @unpackExponent Format.binary64 x.toModel.toBits.toBitVec = -1#_ ↔
      exponent x = 2047 := by
  rw [← BitVec.toNat_inj, toNat_exponent]
  rfl

theorem exponent_zeros (x : Float) :
    @unpackExponent Format.binary64 x.toModel.toBits.toBitVec = 0#_ ↔
      exponent x = 0 := by
  rw [← BitVec.toNat_inj, toNat_exponent]
  rfl

theorem fraction_zeros (x : Float) :
    @unpackMantissa Format.binary64 x.toModel.toBits.toBitVec = 0#_ ↔
      fraction x = 0 := by
  rw [← BitVec.toNat_inj, toNat_fraction]
  rfl

theorem unpack_infinite (infinite : isInfinite x) :
    x.toModel.unpack = .infinity (sign x) := by
  obtain ⟨high, none⟩ : exponent x = 2047 ∧ fraction x = 0 := by simpa [isInfinite] using infinite
  unfold Float.Model.unpack Float.Model.UnpackedFloat.unpack
  simp only [(exponent_ones x).mpr high, (fraction_zeros x).mpr none, if_true, ofBitVec_sign]

theorem unpack_nan (nan : isNaN x) : x.toModel.unpack = .notANumber := by
  obtain ⟨high, some⟩ : exponent x = 2047 ∧ fraction x ≠ 0 := by simpa [isNaN] using nan
  unfold Float.Model.unpack Float.Model.UnpackedFloat.unpack
  simp only [(exponent_ones x).mpr high, if_true, if_neg (mt (fraction_zeros x).mp some)]

theorem unpack_zero (finite : IsFinite x) (zero : significand x = 0) :
    x.toModel.unpack = .zero (sign x) := by
  have least : exponent x = 0 ∧ fraction x = 0 := by
    unfold significand at zero
    split at zero
    · exact ⟨‹_›, zero⟩
    · simp at zero
  unfold Float.Model.unpack Float.Model.UnpackedFloat.unpack
  simp only [if_neg (mt (exponent_ones x).mp finite), if_pos ((exponent_zeros x).mpr least.1),
    dif_pos ((fraction_zeros x).mpr least.2), ofBitVec_sign]

theorem unpack_nonzero (finite : IsFinite x) (some : 0 < significand x) :
    x.toModel.unpack = .finite (sign x) (significand x) (power x) some := by
  unfold Float.Model.unpack Float.Model.UnpackedFloat.unpack
  by_cases least : exponent x = 0
  · have whole : significand x = fraction x := if_pos least
    have set : ¬fraction x = 0 := by omega
    have bottom : power x = -1074 := by rw [power, least]; rfl
    simp only [if_neg (mt (exponent_ones x).mp finite), if_pos ((exponent_zeros x).mpr least),
      dif_neg (mt (fraction_zeros x).mp set), ofBitVec_sign, toNat_fraction, toNat_exponent,
      whole, bottom, least]
    rfl
  · have leading : significand x = 2 ^ 52 + fraction x := if_neg least
    have append : (1#1 ++ @unpackMantissa Format.binary64
        x.toModel.toBits.toBitVec).toNat = significand x := by
      rw [BitVec.toNat_append, toNat_fraction, ← Nat.shiftLeft_add_eq_or_of_lt (fraction_lt x),
        leading, Nat.shiftLeft_eq]
      rfl
    simp only [if_neg (mt (exponent_ones x).mp finite), if_neg (mt (exponent_zeros x).mp least),
      ofBitVec_sign, toNat_exponent, append]
    congr 1
    have bias : (Format.binary64.exponentBias : ℤ) + (52 : ℕ) = 1075 := rfl
    rw [power, bias]
    omega

/-- No number, an infinity, a zero, or a significand times a power of two. -/
theorem kinds (x : Float) : isNaN x ∨ isInfinite x ∨
    (IsFinite x ∧ significand x = 0) ∨ (IsFinite x ∧ 0 < significand x) := by
  by_cases high : exponent x = 2047
  · by_cases zero : fraction x = 0 <;> simp [isNaN, isInfinite, high, zero]
  · have finite : IsFinite x := high
    rcases Nat.eq_zero_or_pos (significand x) with zero | some
    · exact .inr (.inr (.inl ⟨finite, zero⟩))
    · exact .inr (.inr (.inr ⟨finite, some⟩))

theorem fields_of_infinity {s : Sign} (unpacked : x.toModel.unpack = .infinity s) :
    isInfinite x ∧ sign x = s := by
  rcases kinds x with nan | infinite | ⟨finite, zero⟩ | ⟨finite, some⟩
  · rw [unpack_nan nan] at unpacked; contradiction
  · rw [unpack_infinite infinite] at unpacked
    injection unpacked with same
    exact ⟨infinite, same⟩
  · rw [unpack_zero finite zero] at unpacked; contradiction
  · rw [unpack_nonzero finite some] at unpacked; contradiction

theorem fields_of_zero {s : Sign} (unpacked : x.toModel.unpack = .zero s) :
    IsFinite x ∧ sign x = s ∧ significand x = 0 := by
  rcases kinds x with nan | infinite | ⟨finite, zero⟩ | ⟨finite, some⟩
  · rw [unpack_nan nan] at unpacked; contradiction
  · rw [unpack_infinite infinite] at unpacked; contradiction
  · rw [unpack_zero finite zero] at unpacked
    injection unpacked with same
    exact ⟨finite, same, zero⟩
  · rw [unpack_nonzero finite some] at unpacked; contradiction

theorem fields_of_finite {s : Sign} {m : ℕ} {e : ℤ} {some : 0 < m}
    (unpacked : x.toModel.unpack = .finite s m e some) :
    IsFinite x ∧ sign x = s ∧ significand x = m ∧ power x = e := by
  rcases kinds x with nan | infinite | ⟨finite, zero⟩ | ⟨finite, some⟩
  · rw [unpack_nan nan] at unpacked; contradiction
  · rw [unpack_infinite infinite] at unpacked; contradiction
  · rw [unpack_zero finite zero] at unpacked; contradiction
  · rw [unpack_nonzero finite some] at unpacked
    injection unpacked with first second third
    exact ⟨finite, first, second, third⟩

theorem fields_of_components {s : Sign} {e : BitVec 11} {m : BitVec 52}
    (packed : x.toModel.toBits.toBitVec = packComponents Format.binary64 s e m) :
    sign x = s ∧ exponent x = e.toNat ∧ fraction x = m.toNat := by
  refine ⟨?_, ?_, ?_⟩
  · rw [← ofBitVec_sign, packed, unpackSign_packComponents, Sign.ofBitVec_toBitVec]
  · rw [← toNat_exponent, packed, unpackExponent_packComponents]
  · rw [← toNat_fraction, packed, unpackMantissa_packComponents]

/-- Packing loses nothing of a significand and a power that a finite double can have. -/
theorem unpack_pack (s : Sign) {m : ℕ} {e : ℤ} (some : 0 < m) (fits : Canonical m e)
    (top : e ≤ 971) :
    (Float.Model.pack (.finite s m e some)).unpack = .finite s m e some := by
  obtain ⟨narrow, low, full⟩ := fits
  let x : Float := ⟨Float.Model.pack (.finite s m e some)⟩
  have packed : x.toModel.toBits.toBitVec =
      if 2 ^ 11 ≤ (e + 1023 + 52).toNat + 1 then packedInfinity Format.binary64 s
      else if m.log2 + 1 = 53 then
        packComponents Format.binary64 s (BitVec.ofNat 11 (e + 1023 + 52).toNat) (BitVec.ofNat 52 m)
      else packComponents Format.binary64 s 0#11 (BitVec.ofNat 52 m) := rfl
  have fits_exponent : ¬2 ^ 11 ≤ (e + 1023 + 52).toNat + 1 := by omega
  rw [if_neg fits_exponent] at packed
  have fields : IsFinite x ∧ sign x = s ∧ significand x = m ∧ power x = e := by
    unfold IsFinite
    rw [significand, power, Nat.pow_eq]
    by_cases normal : 2 ^ 52 ≤ m
    · have bits : m.log2 = 52 := (Nat.log2_eq_iff some.ne').mpr ⟨normal, narrow⟩
      rw [if_pos (by rw [bits])] at packed
      obtain ⟨same_sign, same_exponent, same_fraction⟩ := fields_of_components packed
      rw [BitVec.toNat_ofNat] at same_exponent same_fraction
      refine ⟨by omega, same_sign, ?_, by omega⟩
      rw [if_neg (by omega)]
      omega
    · have bits : m.log2 < 52 := (Nat.log2_lt some.ne').mpr (Nat.lt_of_not_le normal)
      rw [if_neg (by omega)] at packed
      obtain ⟨same_sign, same_exponent, same_fraction⟩ := fields_of_components packed
      rw [BitVec.toNat_ofNat] at same_exponent same_fraction
      refine ⟨by omega, same_sign, ?_, by omega⟩
      rw [if_pos same_exponent]
      omega
  obtain ⟨finite, same_sign, same_significand, same_power⟩ := fields
  show x.toModel.unpack = _
  rw [unpack_nonzero finite (same_significand ▸ some)]
  simp only [same_sign, same_significand, same_power]

theorem neg_toModel (x : Float) : (-x).toModel = Float.Model.pack x.toModel.unpack.neg := rfl

theorem unpack_neg (x : Float) : (-x).toModel.unpack = x.toModel.unpack.neg := by
  rw [neg_toModel]
  rcases kinds x with nan | infinite | ⟨finite, zero⟩ | ⟨finite, some⟩
  · rw [unpack_nan nan]
    exact unpack_packedNaN
  · rw [unpack_infinite infinite]
    cases sign x <;> rfl
  · rw [unpack_zero finite zero]
    exact unpack_packedZero
  · rw [unpack_nonzero finite some]
    exact unpack_pack _ some (canonical x) (power_le finite)

theorem fields_neg (finite : IsFinite x) :
    IsFinite (-x) ∧ sign (-x) = -sign x ∧ significand (-x) = significand x ∧
      power (-x) = power x := by
  have unpacked := unpack_neg x
  rcases Nat.eq_zero_or_pos (significand x) with zero | some
  · rw [unpack_zero finite zero] at unpacked
    obtain ⟨finite', same_sign, zero'⟩ := fields_of_zero unpacked
    have bottom := (canonical x).full
    have bottom' := (canonical (-x)).full
    exact ⟨finite', same_sign, zero'.trans zero.symm, by omega⟩
  · rw [unpack_nonzero finite some] at unpacked
    exact fields_of_finite unpacked

theorem magnitude_eq (x : Float) : magnitude x = significand x * 2 ^ (power x + 1074).toNat := by
  have same : (power x + 1074).toNat = exponent x - 1 := by unfold power; omega
  rw [same]
  rfl

/-- The value of a finite double. -/
def exact (x : Float) : ℚ := units x / scale

theorem units_eq (x : Float) : units x = (sign x).apply (magnitude x) := by
  unfold units sign
  split <;> rfl

theorem cast_pow_two (n : ℕ) : (Nat.pow 2 n : ℚ) = 2 ^ (n : ℤ) := by simp

theorem cast_scale : (scale : ℚ) = 2 ^ (1074 : ℤ) := by
  -- The exponent is a variable, so that nothing tries to evaluate the power.
  have whole {n : ℕ} (places : n = 1074) : scale = Nat.pow 2 n := by
    subst places
    decide +kernel
  obtain ⟨n, places⟩ : ∃ n, n = 1074 := ⟨1074, rfl⟩
  rw [whole places, cast_pow_two, places, Nat.cast_ofNat]

/-- A double is its significand times its power of two. -/
theorem exact_eq (x : Float) : exact x = (sign x).apply (significand x) * 2 ^ power x := by
  have low := (canonical x).low
  have steps : (2 : ℚ) ^ (power x + 1074).toNat = 2 ^ power x * 2 ^ (1074 : ℤ) := by
    rw [← zpow_natCast, Int.toNat_of_nonneg (by omega), zpow_add₀ two_ne_zero]
  have cancel : (2 : ℚ) ^ (1074 : ℤ) ≠ 0 := zpow_ne_zero _ two_ne_zero
  rw [exact, units_eq, magnitude_eq, cast_scale, div_eq_iff cancel, mul_assoc, ← steps]
  cases sign x <;> simp [Sign.apply]

theorem exact_nonneg (positive : sign x = .positive) : 0 ≤ exact x := by
  rw [exact_eq, positive]
  simp only [Sign.apply, Int.cast_natCast]
  positivity

theorem abs_of_positive (positive : sign x = .positive) : |exact x| = exact x :=
  abs_of_nonneg (exact_nonneg positive)

theorem abs_exact (x : Float) : |exact x| = significand x * 2 ^ power x := by
  have positive : (0 : ℚ) < 2 ^ power x := by positivity
  rw [exact_eq, abs_mul, abs_of_pos positive]
  cases sign x <;> simp [Sign.apply]

theorem apply_neg (s : Sign) (n : ℤ) : (-s).apply n = -s.apply n := by
  cases s
  · exact (neg_neg n).symm
  · rfl

theorem exact_neg (finite : IsFinite x) : exact (-x) = -exact x := by
  obtain ⟨-, opposite, same_significand, same_power⟩ := fields_neg finite
  rw [exact_eq, exact_eq, opposite, same_significand, same_power, apply_neg, Int.cast_neg, neg_mul]

end AggregateStage.Binary64
