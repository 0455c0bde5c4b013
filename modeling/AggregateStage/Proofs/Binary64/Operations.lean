import AggregateStage.Proofs.Binary64.Rounding

/-! Products, quotients and conversions of doubles. Each is the one double that holds the exact
result. -/
namespace AggregateStage.Binary64

open Float.Model (Format totalExponent)
open Float.Model.UnpackedFloat

variable {x y z : Float} {m n : ℕ} {e : ℤ} {s : Sign}

theorem within_self (m : ℕ) (e : ℤ) : Within m e (m * 2 ^ e) := by
  have positive : (0 : ℚ) < 2 ^ e := by positivity
  refine ⟨?_, ?_, ?_⟩
  · rw [mul_le_mul_iff_left₀ positive]
    split <;> linarith
  · rw [mul_le_mul_iff_left₀ positive]
    linarith
  · rintro (tie | tie)
    · have same := mul_right_cancel₀ positive.ne' tie
      split at same <;> linarith
    · have same := mul_right_cancel₀ positive.ne' tie
      linarith

theorem canonical_zero : Canonical 0 (-1074) := ⟨by norm_num, le_rfl, .inr rfl⟩

/-- Nothing but a zero holds zero. -/
theorem holds_zero : Holds x 0 ↔ significand x = 0 := by
  have positive : (0 : ℚ) < 2 ^ power x := by positivity
  constructor
  · intro holds
    by_contra some
    have least : (1 : ℚ) ≤ significand x := by exact_mod_cast Nat.pos_of_ne_zero some
    have low := holds.low
    have above : (0 : ℚ) < (significand x - (if significand x = 2 ^ 52 ∧ -1074 < power x
        then 1 / 4 else 1 / 2)) * 2 ^ power x := by
      apply mul_pos _ positive
      split <;> linarith
    linarith
  · intro zero
    have self := within_self (significand x) (power x)
    rwa [zero, Nat.cast_zero, zero_mul, ← zero] at self

/-- What is no zero is at least half of what it holds. -/
theorem Holds.twice_ge {v : ℚ} (holds : Holds x v) (some : 0 < significand x) :
    v ≤ 2 * |exact x| := by
  have positive : (0 : ℚ) < 2 ^ power x := by positivity
  have least : (1 : ℚ) ≤ significand x := by exact_mod_cast some
  have high := holds.high
  rw [abs_exact]
  nlinarith

theorem holds_exact (x : Float) : Holds x |exact x| := by
  rw [abs_exact]
  exact within_self _ _

/-- Zero holds nothing that is one or more. -/
theorem Holds.significand_pos {v : ℚ} (holds : Holds x v) (large : 1 ≤ v) : 0 < significand x := by
  by_contra none
  have zero : significand x = 0 := by omega
  have bottom : power x = -1074 := by
    have full := (canonical x).full
    omega
  have tiny : (2 : ℚ) ^ (-1074 : ℤ) ≤ 1 := zpow_le_one_of_nonpos₀ one_le_two (by omega)
  have high := holds.high
  rw [zero, bottom, Nat.cast_zero] at high
  linarith

/-- What is no zero holds nothing below half of the smallest double. -/
theorem Holds.ge_least {v : ℚ} (holds : Holds x v) (some : 0 < significand x) :
    (2 : ℚ) ^ (-1075 : ℤ) ≤ v := by
  have least : (1 : ℚ) ≤ significand x := by exact_mod_cast some
  have bottom : (2 : ℚ) ^ (-1074 : ℤ) ≤ 2 ^ power x :=
    zpow_le_zpow_right₀ one_le_two (canonical x).low
  have half : 1 / 2 ≤ (significand x : ℚ) -
      (if significand x = 2 ^ 52 ∧ -1074 < power x then 1 / 4 else 1 / 2) := by
    split <;> linarith
  calc (2 : ℚ) ^ (-1075 : ℤ) = 1 / 2 * 2 ^ (-1074 : ℤ) := by
        rw [show (-1074 : ℤ) = -1075 + 1 from rfl, zpow_add_one₀ two_ne_zero]
        ring
    _ ≤ _ := mul_le_mul half bottom (by positivity) (by linarith)
    _ ≤ v := holds.low

/-- A zero comes of an operation as the double that holds zero. -/
theorem pack_zero_iff (finite : IsFinite z) :
    Float.ofModel (Float.Model.pack (.zero s)) = z ↔ s = sign z ∧ Holds z 0 := by
  have zero : Float.Model.UnpackedFloat.zero s = unpacked s 0 (-1074) := rfl
  rw [zero, pack_unpacked_iff canonical_zero finite, holds_zero]
  constructor
  · rintro ⟨same, none, -⟩
    exact ⟨same, none.symm⟩
  · rintro ⟨same, none⟩
    have bottom := (canonical z).full
    exact ⟨same, none.symm, by omega⟩

theorem represents_whole (m : ℕ) : Represents (ExtendedMantissa.ofMantissaAndAccuracy m .exact) m :=
  rfl

theorem log2_full (full : 2 ^ 52 ≤ m) : 52 ≤ m.log2 :=
  (Nat.le_log2 (by omega)).mpr full

/-- The mantissas of two doubles make enough bits together. -/
theorem fine_product {m' : ℕ} {e' : ℤ} (fits : Canonical m e) (fits' : Canonical m' e')
    (some : 0 < m) (some' : 0 < m') : e + e' ≤ target (m * m') (e + e') := by
  rw [target_eq]
  by_cases bottom : e + e' ≤ -1074
  · omega
  · have full : 2 ^ 52 ≤ m * m' := by
      rcases fits.full with full | low
      · exact full.trans (Nat.le_mul_of_pos_right m some')
      · rcases fits'.full with full | low'
        · exact full.trans (Nat.le_mul_of_pos_left m' some)
        · omega
    have := log2_full full
    omega

theorem represents_product (m m' : ℕ) (e e' : ℤ) :
    Represents (ExtendedMantissa.ofMantissaAndAccuracy (m * m') .exact)
      (m * 2 ^ e * (m' * 2 ^ e') / 2 ^ (e + e') : ℚ) := by
  have value : (m * 2 ^ e * (m' * 2 ^ e') / 2 ^ (e + e') : ℚ) = (m * m' : ℕ) := by
    rw [zpow_add₀ two_ne_zero, div_eq_iff (by positivity)]
    push_cast
    ring
  rw [value]
  exact represents_whole _

theorem mul_toModel (x y : Float) : x * y = Float.ofModel (Float.Model.pack
    (Float.Model.UnpackedFloat.mul Format.binary64 x.toModel.unpack y.toModel.unpack)) := rfl

/-- A product is the double that holds the exact product. -/
theorem mul_eq_iff (finite : IsFinite x) (finite' : IsFinite y) (result : IsFinite z) :
    x * y = z ↔ sign x * sign y = sign z ∧ Holds z |exact x * exact y| := by
  rw [mul_toModel, abs_mul, abs_exact, abs_exact]
  rcases Nat.eq_zero_or_pos (significand x) with zero | some <;>
    rcases Nat.eq_zero_or_pos (significand y) with zero' | some'
  · rw [unpack_zero finite zero, unpack_zero finite' zero', zero, Nat.cast_zero, zero_mul, zero_mul]
    exact pack_zero_iff result
  · rw [unpack_zero finite zero, unpack_nonzero finite' some', zero, Nat.cast_zero, zero_mul,
      zero_mul]
    exact pack_zero_iff result
  · rw [unpack_nonzero finite some, unpack_zero finite' zero', zero', Nat.cast_zero, zero_mul,
      mul_zero]
    exact pack_zero_iff result
  · rw [unpack_nonzero finite some, unpack_nonzero finite' some']
    exact pack_round_iff (represents_product _ _ _ _)
      (fine_product (canonical x) (canonical y) some some') result

/-- A quotient with the place of its remainder. -/
theorem represents_quotient (a : ℕ) {b : ℕ} (positive : 0 < b) :
    Represents (ExtendedMantissa.ofMantissaAndAccuracy (a / b) (accuracyOfFraction (a % b) b))
      (a / b : ℚ) := by
  have positive' : (0 : ℚ) < b := by exact_mod_cast positive
  have small : ((a % b : ℕ) : ℚ) < b := by exact_mod_cast Nat.mod_lt a positive
  have split : (a : ℚ) / b = (a / b : ℕ) + (a % b : ℕ) / b := by
    have division : (b : ℚ) * (a / b : ℕ) + (a % b : ℕ) = a := by
      exact_mod_cast Nat.div_add_mod a b
    rw [← division]
    field_simp
  rw [split]
  unfold accuracyOfFraction
  split
  · have whole : a % b = 0 := ‹_›
    simp [Represents, ExtendedMantissa.ofMantissaAndAccuracy, whole]
  · have some : (0 : ℚ) < (a % b : ℕ) := by exact_mod_cast Nat.pos_of_ne_zero ‹_›
    have above : (0 : ℚ) < (a % b : ℕ) / b := by positivity
    have below : ((a % b : ℕ) : ℚ) / b < 1 := (div_lt_one positive').mpr small
    rcases lt_trichotomy (2 * (a % b)) b with less | half | more
    · rw [Nat.compare_eq_lt.mpr less]
      have less' : 2 * ((a % b : ℕ) : ℚ) < b := by exact_mod_cast less
      have near : ((a % b : ℕ) : ℚ) / b < 1 / 2 := by
        rw [div_lt_div_iff₀ positive' two_pos]
        linarith
      change ((a / b : ℕ) : ℚ) < _ ∧ _ < ((a / b : ℕ) : ℚ) + 1 / 2
      exact ⟨by linarith, by linarith⟩
    · rw [Nat.compare_eq_eq.mpr half]
      have half' : 2 * ((a % b : ℕ) : ℚ) = b := by exact_mod_cast half
      have middle : ((a % b : ℕ) : ℚ) / b = 1 / 2 := by
        rw [div_eq_div_iff positive'.ne' two_ne_zero]
        linarith
      rw [middle]
      rfl
    · rw [Nat.compare_eq_gt.mpr more]
      have more' : (b : ℚ) < 2 * (a % b : ℕ) := by exact_mod_cast more
      have far : 1 / 2 < ((a % b : ℕ) : ℚ) / b := by
        rw [div_lt_div_iff₀ two_pos positive']
        linarith
      change ((a / b : ℕ) : ℚ) + 1 / 2 < _ ∧ _ < ((a / b : ℕ) : ℚ) + 1
      exact ⟨by linarith, by linarith⟩

/-- The power of two in which a quotient is taken. -/
def quotientPower (m : ℕ) (e : ℤ) (m' : ℕ) (e' : ℤ) : ℤ :=
  min (e - e') (Format.binary64.targetExponent (totalExponent m e - totalExponent m' e'))

theorem divCore_eq (m : ℕ) (e : ℤ) (m' : ℕ) (e' : ℤ) : divCore Format.binary64 m e m' e' =
    (m * 2 ^ (e - e' - quotientPower m e m' e').toNat / m', quotientPower m e m' e',
      accuracyOfFraction (m * 2 ^ (e - e' - quotientPower m e m' e').toNat % m') m') := by
  unfold divCore
  simp only [Nat.shiftLeft_eq]
  rfl

/-- The dividend is shifted until the quotient has enough bits. -/
theorem fine_quotient {m' : ℕ} (e e' : ℤ) (some : 0 < m) (some' : 0 < m') :
    quotientPower m e m' e' ≤ target (m * 2 ^ (e - e' - quotientPower m e m' e').toNat / m')
      (quotientPower m e m' e') := by
  have formula : quotientPower m e m' e' =
      min (e - e') (max (m.log2 + 1 + e - (m'.log2 + 1 + e') - 53) (-1074)) := rfl
  rw [target_eq]
  by_cases bottom : quotientPower m e m' e' ≤ -1074
  · omega
  · set shift := (e - e' - quotientPower m e m' e').toNat with shifted
    have enough : m'.log2 + 53 ≤ m.log2 + shift := by omega
    have full : 2 ^ 52 ≤ m * 2 ^ shift / m' := by
      rw [Nat.le_div_iff_mul_le some']
      calc 2 ^ 52 * m' ≤ 2 ^ 52 * 2 ^ (m'.log2 + 1) := by
            gcongr
            exact Nat.lt_log2_self.le
        _ = 2 ^ (m'.log2 + 53) := by ring
        _ ≤ 2 ^ (m.log2 + shift) := Nat.pow_le_pow_right two_pos enough
        _ = 2 ^ m.log2 * 2 ^ shift := Nat.pow_add 2 _ _
        _ ≤ m * 2 ^ shift := by
            gcongr
            exact Nat.log2_self_le some.ne'
    have := log2_full full
    omega

theorem div_toModel (x y : Float) : x / y = Float.ofModel (Float.Model.pack
    (Float.Model.UnpackedFloat.div Format.binary64 x.toModel.unpack y.toModel.unpack)) := rfl

theorem quotient_eq {m' : ℕ} (e e' : ℤ) (some' : 0 < m') :
    (m * 2 ^ e / (m' * 2 ^ e') : ℚ) / 2 ^ quotientPower m e m' e' =
      (m * 2 ^ (e - e' - quotientPower m e m' e').toNat : ℕ) / m' := by
  have nonzero : (m' : ℚ) ≠ 0 := by exact_mod_cast some'.ne'
  have least : quotientPower m e m' e' ≤ e - e' := min_le_left _ _
  have shift : (2 : ℚ) ^ (e - e' - quotientPower m e m' e').toNat =
      2 ^ e / 2 ^ e' / 2 ^ quotientPower m e m' e' := by
    rw [← zpow_natCast, Int.toNat_of_nonneg (by omega), zpow_sub₀ two_ne_zero,
      zpow_sub₀ two_ne_zero]
  push_cast
  rw [shift]
  field_simp

/-- A quotient is the double that holds the exact quotient. -/
theorem div_eq_iff (finite : IsFinite x) (finite' : IsFinite y) (some' : 0 < significand y)
    (result : IsFinite z) :
    x / y = z ↔ sign x / sign y = sign z ∧ Holds z |exact x / exact y| := by
  rw [div_toModel, abs_div, abs_exact, abs_exact]
  rcases Nat.eq_zero_or_pos (significand x) with zero | some
  · rw [unpack_zero finite zero, unpack_nonzero finite' some', zero, Nat.cast_zero, zero_mul,
      zero_div]
    exact pack_zero_iff result
  · rw [unpack_nonzero finite some, unpack_nonzero finite' some']
    have fine := fine_quotient (power x) (power y) some some'
    have quotient := represents_quotient (significand x * 2 ^ (power x - power y -
      quotientPower (significand x) (power x) (significand y) (power y)).toNat) some'
    rw [← quotient_eq (power x) (power y) some'] at quotient
    simp only [Float.Model.UnpackedFloat.div, divCore_eq]
    exact pack_round_iff quotient fine result

theorem fields_pack (s : Sign) (fits : Canonical m e) (top : e ≤ 971) :
    IsFinite (.ofModel (.pack (unpacked s m e))) ∧ sign (.ofModel (.pack (unpacked s m e))) = s ∧
      significand (.ofModel (.pack (unpacked s m e))) = m ∧
      power (.ofModel (.pack (unpacked s m e))) = e := by
  by_cases zero : m = 0
  · have read : (Float.Model.pack (unpacked s m e)).unpack = .zero s := by
      rw [unpacked, dif_pos zero]
      exact unpack_packedZero
    obtain ⟨finite, same, none⟩ := fields_of_zero (x := .ofModel (.pack (unpacked s m e))) read
    have bottom := (canonical (.ofModel (.pack (unpacked s m e)))).full
    have bottom' := fits.full
    exact ⟨finite, same, none.trans zero.symm, by omega⟩
  · have some := Nat.pos_of_ne_zero zero
    have read : (Float.Model.pack (unpacked s m e)).unpack = .finite s m e some := by
      rw [unpacked, dif_neg zero]
      exact unpack_pack s some fits top
    exact fields_of_finite (x := .ofModel (.pack (unpacked s m e))) read

/-- The power of two in which a natural number is taken before it is rounded. -/
theorem ofNat_toModel (bound : n < 2 ^ 64) (some : 0 < n) : (UInt64.ofNat n).toFloat =
    .ofModel (.pack (roundWithAccuracy Format.binary64 .positive
      (n * 2 ^ (0 - target n 0).toNat) (0 - (0 - target n 0).toNat : ℤ) .exact)) := by
  have value : (UInt64.ofNat n).toNat = n := by
    rw [UInt64.toNat_ofNat', Nat.mod_eq_of_lt bound]
  have positive : compare (n : ℤ) 0 = .gt := by rw [Int.compare_eq_gt]; omega
  have normal : Float.Model.UnpackedFloat.ofUInt64 Format.binary64 (UInt64.ofNat n) =
      normalize Format.binary64 n 0 .positive := by
    rw [ofUInt64, value]
    rfl
  have unfolded : (UInt64.ofNat n).toFloat = .ofModel (.pack
    (Float.Model.UnpackedFloat.ofUInt64 Format.binary64 (UInt64.ofNat n))) := rfl
  rw [unfolded, normal, Float.Model.UnpackedFloat.normalize, positive]
  simp only [Int.toNat_natCast, Float.Model.UnpackedFloat.round, decreaseExponent,
    Nat.shiftLeft_eq]
  rfl

theorem log2_mul_two_pow (some : 0 < n) (k : ℕ) : (n * 2 ^ k).log2 = n.log2 + k := by
  have above := Nat.log2_self_le some.ne'
  have below : n < 2 ^ (n.log2 + 1) := Nat.lt_log2_self
  rw [Nat.log2_eq_iff (by positivity), Nat.pow_add, add_right_comm, Nat.pow_add]
  exact ⟨Nat.mul_le_mul_right _ above, Nat.mul_lt_mul_of_pos_right below (by positivity)⟩

theorem fine_whole (some : 0 < n) : (0 - (0 - target n 0).toNat : ℤ) ≤
    target (n * 2 ^ (0 - target n 0).toNat) (0 - (0 - target n 0).toNat) := by
  rw [target_eq (n * _), log2_mul_two_pow some]
  have := target_eq n 0
  push_cast
  omega

theorem represents_shifted (n k : ℕ) : Represents (ExtendedMantissa.ofMantissaAndAccuracy
    (n * 2 ^ k) .exact) (n / 2 ^ (0 - k : ℤ) : ℚ) := by
  have value : (n / 2 ^ (0 - k : ℤ) : ℚ) = (n * 2 ^ k : ℕ) := by
    rw [zero_sub, zpow_neg, zpow_natCast]
    push_cast
    field_simp
  rw [value]
  exact represents_whole _

/-- A natural number becomes the double that holds it. -/
theorem ofNat_eq_iff (bound : n < 2 ^ 64) (result : IsFinite z) :
    (UInt64.ofNat n).toFloat = z ↔ .positive = sign z ∧ Holds z n := by
  rcases Nat.eq_zero_or_pos n with rfl | some
  · rw [Nat.cast_zero]
    exact pack_zero_iff result
  · rw [ofNat_toModel bound some]
    exact pack_round_iff (represents_shifted n _) (fine_whole some) result

/-- Half-way from the largest double to the power of two beyond it. -/
def overflow : ℚ := (2 ^ 53 - 1 / 2) * 2 ^ (971 : ℤ)

theorem overflow_eq : overflow = (2 ^ 52 - 1 / 4) * 2 ^ (972 : ℤ) := by
  have next : (972 : ℤ) = 971 + 1 := rfl
  rw [overflow, next, zpow_add_one₀ two_ne_zero]
  generalize (2 : ℚ) ^ (971 : ℤ) = unit
  ring

/-- What a finite double holds is less. -/
theorem Holds.lt_overflow {v : ℚ} (holds : Holds x v) (finite : IsFinite x) : v < overflow := by
  have narrow := significand_lt x
  have top : (2 : ℚ) ^ power x ≤ 2 ^ (971 : ℤ) := zpow_le_zpow_right₀ one_le_two (power_le finite)
  by_cases last : significand x = 2 ^ 53 - 1
  · -- The last significand is odd, so it does not take its midpoint.
    have strict : v < (significand x + 1 / 2) * 2 ^ power x :=
      lt_of_le_of_ne holds.high fun tie => by
        have even := holds.even (.inr tie)
        omega
    have same : (significand x : ℚ) + 1 / 2 = 2 ^ 53 - 1 / 2 := by
      rw [last]
      norm_num
    rw [same] at strict
    exact strict.trans_le (mul_le_mul_of_nonneg_left top (by norm_num))
  · have less : (significand x : ℚ) + 2 ≤ 2 ^ 53 := by
      exact_mod_cast (by omega : significand x + 2 ≤ 2 ^ 53)
    have factor : (significand x : ℚ) + 1 / 2 < 2 ^ 53 - 1 / 2 := by linarith only [less]
    calc v ≤ (significand x + 1 / 2) * 2 ^ power x := holds.high
      _ ≤ (significand x + 1 / 2) * 2 ^ (971 : ℤ) :=
        mul_le_mul_of_nonneg_left top (add_nonneg (Nat.cast_nonneg _) one_half_pos.le)
      _ < (2 ^ 53 - 1 / 2) * 2 ^ (971 : ℤ) :=
        mul_lt_mul_of_pos_right factor (zpow_pos two_pos _)

/-- What lies below the midpoint beyond the largest double is rounded to a finite one. -/
theorem power_le_of_within {v : ℚ} (fits : Canonical m e) (within : Within m e v)
    (small : v < overflow) : e ≤ 971 := by
  rw [overflow_eq] at small
  by_contra high
  have full : 2 ^ 52 ≤ m := fits.full.resolve_right (by omega)
  have full' : (2 : ℚ) ^ 52 ≤ m := by exact_mod_cast full
  have large : (2 : ℚ) ^ (972 : ℤ) ≤ 2 ^ e := zpow_le_zpow_right₀ one_le_two (by omega)
  have least : (2 : ℚ) ^ 52 - 1 / 4 ≤ m - (if m = 2 ^ 52 ∧ -1074 < e then 1 / 4 else 1 / 2) := by
    split
    · linarith
    · have more : 2 ^ 52 + 1 ≤ m := by omega
      have more' : (2 : ℚ) ^ 52 + 1 ≤ m := by exact_mod_cast more
      linarith
  have beyond : ((2 : ℚ) ^ 52 - 1 / 4) * 2 ^ (972 : ℤ) ≤ v :=
    calc ((2 : ℚ) ^ 52 - 1 / 4) * 2 ^ (972 : ℤ)
        ≤ (m - (if m = 2 ^ 52 ∧ -1074 < e then 1 / 4 else 1 / 2)) * 2 ^ e := by gcongr
      _ ≤ v := within.low
  linarith

/-- Below the midpoint beyond the largest double every number has a double that holds it. -/
theorem exists_holds {v : ℚ} (nonnegative : 0 ≤ v) (small : v < overflow) (s : Sign) :
    ∃ z, IsFinite z ∧ sign z = s ∧ Holds z v := by
  rcases nonnegative.eq_or_lt with rfl | positive
  · obtain ⟨finite, same, none, -⟩ := fields_pack s canonical_zero (by omega)
    exact ⟨_, finite, same, holds_zero.mpr none⟩
  · have some : 0 < v.num.toNat := by
      have := Rat.num_pos.mpr positive
      omega
    have whole : (v.num.toNat * 2 ^ (0 : ℤ) / (v.den * 2 ^ (0 : ℤ)) : ℚ) = v := by
      have numerator : (v.num.toNat : ℤ) = v.num :=
        Int.toNat_of_nonneg (Rat.num_nonneg.mpr nonnegative)
      have numerator' : (v.num.toNat : ℚ) = v.num := by exact_mod_cast numerator
      rw [zpow_zero, mul_one, mul_one, numerator', Rat.num_div_den]
    have quotient := represents_quotient
      (v.num.toNat * 2 ^ (0 - 0 - quotientPower v.num.toNat 0 v.den 0).toNat) v.den_pos
    rw [← quotient_eq 0 0 v.den_pos, whole] at quotient
    obtain ⟨m, e, fits, within, -⟩ := round_spec quotient (fine_quotient 0 0 some v.den_pos)
    obtain ⟨finite, same, mantissa, power⟩ :=
      fields_pack s fits (power_le_of_within fits within small)
    refine ⟨_, finite, same, ?_⟩
    rwa [Holds, mantissa, power]

/-- A natural number of 64 bits becomes a finite double. -/
theorem fields_ofNat (bound : n < 2 ^ 64) : IsFinite (UInt64.ofNat n).toFloat ∧
    sign (UInt64.ofNat n).toFloat = .positive ∧ Holds (UInt64.ofNat n).toFloat n := by
  have small : (n : ℚ) < overflow :=
    calc (n : ℚ) < 2 ^ 64 := by exact_mod_cast bound
      _ = 2 ^ (64 : ℤ) := (zpow_natCast 2 64).symm
      _ ≤ 2 ^ (971 : ℤ) := zpow_le_zpow_right₀ one_le_two (by omega)
      _ ≤ overflow := le_mul_of_one_le_left (by positivity) (by norm_num)
  obtain ⟨z, finite, same, holds⟩ := exists_holds (Nat.cast_nonneg n) small .positive
  rw [(ofNat_eq_iff bound finite).mpr ⟨same.symm, holds⟩]
  exact ⟨finite, same, holds⟩

/-- A number that a double can have becomes the double that has it. -/
theorem ofNat_exact_of_canonical (bound : n < 2 ^ 64) (fits : Canonical m e) (top : e ≤ 971)
    (value : (n : ℚ) = m * 2 ^ e) : exact (UInt64.ofNat n).toFloat = n ∧
      sign (UInt64.ofNat n).toFloat = .positive := by
  obtain ⟨finite, same, mantissa, power⟩ := fields_pack .positive fits top
  have holds : Holds (.ofModel (.pack (unpacked .positive m e))) n := by
    rw [Holds, mantissa, power, value]
    exact within_self m e
  rw [(ofNat_eq_iff bound finite).mpr ⟨same.symm, holds⟩, exact_eq, same, mantissa, power, value]
  exact ⟨rfl, rfl⟩

/-- Up to 2^53 nothing is lost. -/
theorem ofNat_exact (narrow : n ≤ 2 ^ 53) : exact (UInt64.ofNat n).toFloat = n ∧
    sign (UInt64.ofNat n).toFloat = .positive := by
  have bound : n < 2 ^ 64 := by omega
  rcases Nat.eq_zero_or_pos n with rfl | some
  · exact ofNat_exact_of_canonical bound canonical_zero (by omega) (by simp)
  rcases narrow.eq_or_lt with rfl | narrow
  · exact ofNat_exact_of_canonical bound (canonical_carry (t := 0) (by omega)) (by omega)
      (by norm_num)
  · have bits : n.log2 ≤ 52 := Nat.le_of_lt_succ ((Nat.log2_lt some.ne').mpr narrow)
    have above := Nat.log2_self_le some.ne'
    have below : n < 2 ^ (n.log2 + 1) := Nat.lt_log2_self
    have full : 2 ^ n.log2 * 2 ^ (52 - n.log2) = 2 ^ 52 := by
      rw [← Nat.pow_add]
      congr 1
      omega
    have fits : Canonical (n * 2 ^ (52 - n.log2)) (n.log2 - 52) := by
      refine ⟨?_, by omega, .inl ?_⟩
      · calc n * 2 ^ (52 - n.log2) < 2 ^ (n.log2 + 1) * 2 ^ (52 - n.log2) := by gcongr
          _ = 2 ^ 53 := by rw [Nat.pow_succ, mul_right_comm, full]; norm_num
      · rw [← full]
        gcongr
    refine ofNat_exact_of_canonical bound fits (by omega) ?_
    have back : ((n.log2 : ℤ) - 52) = -(52 - n.log2 : ℕ) := by omega
    rw [back, zpow_neg, zpow_natCast]
    push_cast
    field_simp

theorem isInfinite_eq_false (finite : IsFinite x) : isInfinite x = false := by
  simp [isInfinite, show exponent x ≠ 2047 from finite]

theorem finite_or_infinite_pack (s : Sign) (fits : Canonical m e) :
    IsFinite (.ofModel (.pack (unpacked s m e))) ∨
      isInfinite (.ofModel (.pack (unpacked s m e))) := by
  rcases le_or_gt e 971 with top | high
  · exact .inl (fields_pack s fits top).1
  · have some : 0 < m := by
      have := fits.full
      omega
    have infinite := unpack_pack_overflow s some high
    rw [unpacked, dif_neg some.ne']
    exact .inr (fields_of_infinity (x := ⟨Float.Model.pack (.finite s m e some)⟩) infinite).1

/-- A product of finite doubles is a number. -/
theorem finite_or_infinite_mul (finite : IsFinite x) (finite' : IsFinite y) :
    IsFinite (x * y) ∨ isInfinite (x * y) := by
  rw [mul_toModel]
  rcases Nat.eq_zero_or_pos (significand x) with zero | some <;>
    rcases Nat.eq_zero_or_pos (significand y) with zero' | some'
  · rw [unpack_zero finite zero, unpack_zero finite' zero']
    exact .inl (fields_pack _ canonical_zero (by omega)).1
  · rw [unpack_zero finite zero, unpack_nonzero finite' some']
    exact .inl (fields_pack _ canonical_zero (by omega)).1
  · rw [unpack_nonzero finite some, unpack_zero finite' zero']
    exact .inl (fields_pack _ canonical_zero (by omega)).1
  · obtain ⟨m, e, fits, -, result⟩ := round_spec (represents_product _ _ _ _)
      (fine_product (canonical x) (canonical y) some some')
    have product : Float.Model.UnpackedFloat.mul Format.binary64 x.toModel.unpack
        y.toModel.unpack = unpacked (sign x * sign y) m e := by
      rw [unpack_nonzero finite some, unpack_nonzero finite' some']
      exact result _
    rw [product]
    exact finite_or_infinite_pack _ fits

/-- Only a zero is equal to zero. -/
theorem beq_zero (finite : IsFinite x) (some : 0 < significand x) : (x == 0) = false := by
  have unfolded : (x == 0) = x.toModel.unpack.beq (.zero .positive) := rfl
  rw [unfolded, unpack_nonzero finite some]
  cases sign x <;> rfl

end AggregateStage.Binary64
