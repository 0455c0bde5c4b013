import AggregateStage.Proofs.Binary64.Operations
import AggregateStage.Proofs.Json.Numeral

/-! The doubles that numerals are taken for. The digits become a double and so does the power
of ten, and the product or quotient of the two is rounded once more, so that a numeral may miss
the double that it identifies. Digits and powers that doubles have exactly are safe. -/
namespace AggregateStage.Json

open Binary64

variable {n : Numeral} {x z : Float} {count significand : ℕ} {power : ℤ}

theorem powerOfTen_small : ∀ count < 23, IsFinite (powerOfTen count) ∧
    negative (powerOfTen count) = false ∧
    units (powerOfTen count) = 10 ^ count * (scale : ℤ) := by decide +kernel

theorem powerOfTen_toModel (large : 22 < count) (within : count ≤ 308) : powerOfTen count =
    .ofModel (.pack (Float.Model.UnpackedFloat.roundWithAccuracy .binary64 .positive
      (2 ^ 53 * 10 ^ count) (-53) .exact)) := by
  have slow : powerOfTen count = .ofModel (.pack (Float.Model.UnpackedFloat.ofScientific
      .binary64 1 count)) := by
    rw [powerOfTen, Float.ofScientific, dif_neg (by omega)]
    rfl
  have not_huge : ¬(count : ℤ) > 2 ^ 11 := by omega
  have not_tiny : ¬(count : ℤ) < -((2 ^ 11 : ℤ) + Nat.log2 1) := by omega
  rw [slow, Float.Model.UnpackedFloat.ofScientific, dif_neg (by decide), if_neg not_huge,
    if_neg not_tiny, if_pos (by omega)]
  rfl

theorem lt_overflow_of_lt {a b : ℕ} (less : 2 * 10 ^ a < (2 ^ 54 - 1) * 2 ^ b) :
    (10 : ℚ) ^ a < (2 ^ 53 - 1 / 2) * 2 ^ (b : ℤ) := by
  have less' : 2 * (10 : ℚ) ^ a < (2 ^ 54 - 1) * 2 ^ b := by
    have whole : ((2 ^ 54 - 1 : ℕ) : ℚ) = 2 ^ 54 - 1 := by norm_num
    rw [← whole]
    exact_mod_cast less
  rw [zpow_natCast]
  linarith

/-- A power of ten up to the largest double is the double that holds it. -/
theorem powerOfTen_spec (within : count ≤ 308) : IsFinite (powerOfTen count) ∧
    sign (powerOfTen count) = .positive ∧ Holds (powerOfTen count) (10 ^ count) ∧
    (count < 23 → exact (powerOfTen count) = 10 ^ count) := by
  by_cases small : count < 23
  · obtain ⟨finite, positive, value⟩ := powerOfTen_small count small
    have same : exact (powerOfTen count) = 10 ^ count := by
      have nonzero : (scale : ℚ) ≠ 0 := by rw [cast_scale]; positivity
      rw [exact, div_eq_iff nonzero]
      exact_mod_cast value
    have up : sign (powerOfTen count) = .positive := by simp [sign, positive]
    have holds := holds_exact (powerOfTen count)
    rw [same, abs_of_pos (by positivity)] at holds
    exact ⟨finite, up, holds, fun _ => same⟩
  · have value : (10 ^ count / 2 ^ (-53 : ℤ) : ℚ) = (2 ^ 53 * 10 ^ count : ℕ) := by
      rw [zpow_neg, div_inv_eq_mul]
      push_cast
      ring
    have fine : (-53 : ℤ) ≤ target (2 ^ 53 * 10 ^ count) (-53) := by
      have full : 2 ^ 52 ≤ 2 ^ 53 * 10 ^ count :=
        le_trans (by norm_num) (Nat.le_mul_of_pos_right _ (by positivity))
      have := log2_full full
      rw [target_eq]
      omega
    have room : (10 : ℚ) ^ count < overflow :=
      calc (10 : ℚ) ^ count ≤ 10 ^ 308 := by gcongr; norm_num
        _ < overflow := lt_overflow_of_lt (by decide +kernel)
    obtain ⟨z, finite, same, holds⟩ := exists_holds (by positivity) room .positive
    have equal : powerOfTen count = z := (powerOfTen_toModel (by omega) within).trans
      ((pack_round_iff (value ▸ represents_whole _) fine finite).mpr ⟨same.symm, holds⟩)
    rw [equal]
    exact ⟨finite, same, holds, fun below => absurd below small⟩

theorem one_le_exact_powerOfTen (within : count ≤ 308) : 1 ≤ exact (powerOfTen count) := by
  obtain ⟨-, positive, holds, same⟩ := powerOfTen_spec within
  rcases Nat.eq_zero_or_pos count with rfl | some
  · exact (same (by norm_num)).ge
  have large : (10 : ℚ) ≤ 10 ^ count := le_self_pow₀ (by norm_num) (by omega)
  have twice := holds.twice_ge (holds.significand_pos (by linarith))
  rw [abs_of_positive positive] at twice
  linarith

theorem exact_powerOfTen_pos (within : count ≤ 308) : 0 < exact (powerOfTen count) :=
  zero_lt_one.trans_le (one_le_exact_powerOfTen within)

theorem mul_powerOfTen_iff (finite : IsFinite x) (positive : sign x = .positive)
    (within : count ≤ 308) (result : IsFinite z) : x * powerOfTen count = z ↔
      sign z = .positive ∧ Holds z (exact x * exact (powerOfTen count)) := by
  obtain ⟨ten, up, -, -⟩ := powerOfTen_spec within
  have size : 0 ≤ exact x * exact (powerOfTen count) :=
    mul_nonneg (exact_nonneg positive) (exact_powerOfTen_pos within).le
  rw [mul_eq_iff finite ten result, positive, up, abs_of_nonneg size]
  exact and_congr_left' eq_comm

theorem div_powerOfTen_iff (finite : IsFinite x) (positive : sign x = .positive)
    (within : count ≤ 308) (result : IsFinite z) : x / powerOfTen count = z ↔
      sign z = .positive ∧ Holds z (exact x / exact (powerOfTen count)) := by
  obtain ⟨ten, up, holds, -⟩ := powerOfTen_spec within
  have some := holds.significand_pos (one_le_pow₀ (by norm_num))
  have size : 0 ≤ exact x / exact (powerOfTen count) :=
    div_nonneg (exact_nonneg positive) (exact_powerOfTen_pos within).le
  rw [Binary64.div_eq_iff finite ten some result, positive, up, abs_of_nonneg size]
  exact and_congr_left' eq_comm

theorem scaleDown_near (near : count ≤ 308) : scaleDown x count = x / powerOfTen count := by
  rw [scaleDown.eq_def, if_pos near]

theorem scaleDown_far (far : 308 < count) (finite : IsFinite x)
    (some : 0 < Binary64.significand x) :
    scaleDown x count = scaleDown (x / powerOfTen 308) (count - 308) := by
  rw [scaleDown.eq_def, if_neg (by omega), beq_zero finite some]
  rfl

/-- What a numeral is rounded to last: the double for its digits times or over the double for
the power of ten. Where the power is beyond the doubles a first part of it is divided by before,
which rounds once more. -/
def taken (significand : ℕ) (power : ℤ) : ℚ :=
  let digits := (UInt64.ofNat significand).toFloat
  if 0 ≤ power then exact digits * exact (powerOfTen power.toNat)
  else if -308 ≤ power then exact digits / exact (powerOfTen (-power).toNat)
  else exact (digits / powerOfTen 308) / exact (powerOfTen (-power - 308).toNat)

theorem scaleUp_eq_iff (finite : IsFinite x) (positive : sign x = .positive)
    (within : count ≤ 308) (result : IsFinite z) : scaleUp x count = some z ↔
      sign z = .positive ∧ Holds z (exact x * exact (powerOfTen count)) := by
  rw [← mul_powerOfTen_iff finite positive within result, scaleUp, if_pos within]
  dsimp only
  split
  · -- An infinity is refused.
    rename_i infinite
    refine iff_of_false (by simp) ?_
    rintro rfl
    rw [isInfinite_eq_false result] at infinite
    cases infinite
  · exact Option.some_inj

/-- A quotient by a power of ten is again finite. -/
theorem fields_div_powerOfTen (finite : IsFinite x) (positive : sign x = .positive)
    (within : count ≤ 308) : IsFinite (x / powerOfTen count) ∧
      sign (x / powerOfTen count) = .positive := by
  have bounded := (holds_exact x).lt_overflow finite
  have nonnegative := exact_nonneg positive
  rw [abs_of_positive positive] at bounded
  have divisor := one_le_exact_powerOfTen within
  have small := (div_le_self nonnegative divisor).trans_lt bounded
  obtain ⟨z, result, same, holds⟩ :=
    exists_holds (div_nonneg nonnegative (zero_le_one.trans divisor)) small .positive
  rw [(div_powerOfTen_iff finite positive within result).mpr ⟨same, holds⟩]
  exact ⟨result, same⟩

/-- The last step of scaling down divides by a power of ten that doubles have. -/
theorem exists_last_quotient (bound : significand < 2 ^ 64) (low : -616 ≤ power)
    (down : ¬0 ≤ power) (some : power < -308 → 0 < significand) : ∃ x count,
    IsFinite x ∧ sign x = .positive ∧ count ≤ 308 ∧
      scaled significand power = .some (x / powerOfTen count) ∧
      taken significand power = exact x / exact (powerOfTen count) := by
  obtain ⟨finite, positive, holds⟩ := fields_ofNat bound
  by_cases near : -308 ≤ power
  · refine ⟨_, (-power).toNat, finite, positive, by omega, ?_, ?_⟩
    · rw [scaled, if_neg down, scaleDown_near (by omega)]
    · rw [taken, if_neg down, if_pos near]
  · obtain ⟨finite', positive'⟩ := fields_div_powerOfTen finite positive (le_refl 308)
    have least : (1 : ℚ) ≤ significand := by exact_mod_cast some (by omega)
    have rest : (-power).toNat - 308 = (-power - 308).toNat := by omega
    refine ⟨_, (-power - 308).toNat, finite', positive', by omega, ?_, ?_⟩
    · rw [scaled, if_neg down, scaleDown_far (by omega) finite (holds.significand_pos least),
        rest, scaleDown_near (by omega)]
    · rw [taken, if_neg down, if_neg near]

/-- Digits and a power of ten are taken for a double if it is the one that holds the result. -/
theorem scaled_eq_iff (bound : significand < 2 ^ 64) (low : -616 ≤ power) (high : power ≤ 308)
    (some : power < -308 → 0 < significand) (result : IsFinite z) :
    scaled significand power = .some z ↔
      sign z = .positive ∧ Holds z (taken significand power) := by
  by_cases up : 0 ≤ power
  · obtain ⟨finite, positive, -⟩ := fields_ofNat bound
    rw [scaled, taken, if_pos up, if_pos up]
    exact scaleUp_eq_iff finite positive (by omega) result
  · obtain ⟨x, count, finite, positive, within, same, value⟩ :=
      exists_last_quotient bound low up some
    rw [same, value, Option.some_inj]
    exact div_powerOfTen_iff finite positive within result

theorem taken_zero (power : ℤ) : taken 0 power = 0 := by
  have zero : exact (UInt64.ofNat 0).toFloat = 0 := (ofNat_exact (Nat.zero_le _)).1
  have zero' : (UInt64.ofNat 0).toFloat / powerOfTen 308 = (UInt64.ofNat 0).toFloat := by
    decide +kernel
  simp only [taken, zero', zero, zero_mul, zero_div, ite_self]

/-- Zero stays zero, however far it is scaled. -/
theorem scaled_zero (power : ℤ) : scaled 0 power = .some 0 := by
  have zero : ((UInt64.ofNat 0).toFloat == 0) = true ∧ (UInt64.ofNat 0).toFloat = 0 := by
    decide +kernel
  by_cases near : power.natAbs ≤ 308
  · rw [scaled_eq_iff (by norm_num) (by omega) (by omega) (by omega) (by decide), taken_zero,
      holds_zero]
    exact ⟨if_neg (by decide), by decide⟩
  · unfold scaled
    dsimp only
    split
    · rw [scaleUp, if_neg (by omega), zero.1, if_pos rfl, zero.2]
    · rw [scaleDown.eq_def, if_neg (by omega), zero.1, if_pos rfl, zero.2]

/-- As `scaled_eq_iff` for any power if there are no digits. -/
theorem scaled_eq_iff_of_bounds (bound : significand < 2 ^ 64)
    (bounds : 0 < significand → -616 ≤ power ∧ power ≤ 308) (result : IsFinite z) :
    scaled significand power = .some z ↔
      sign z = .positive ∧ Holds z (taken significand power) := by
  rcases Nat.eq_zero_or_pos significand with rfl | some
  · rw [scaled_zero, taken_zero, ← scaled_zero 0, ← taken_zero 0]
    exact scaled_eq_iff bound (by norm_num) (by norm_num) (by norm_num) result
  · exact scaled_eq_iff bound (bounds some).1 (bounds some).2 (fun _ => some) result

theorem taken_nonneg (bound : significand < 2 ^ 64)
    (bounds : 0 < significand → -616 ≤ power ∧ power ≤ 308) : 0 ≤ taken significand power := by
  rcases Nat.eq_zero_or_pos significand with rfl | some
  · rw [taken_zero]
  obtain ⟨low, high⟩ := bounds some
  by_cases up : 0 ≤ power
  · rw [taken, if_pos up]
    exact mul_nonneg (exact_nonneg (fields_ofNat bound).2.1)
      (exact_powerOfTen_pos (by omega)).le
  · obtain ⟨x, count, -, positive, within, -, value⟩ :=
      exists_last_quotient bound low up fun _ => some
    rw [value]
    exact div_nonneg (exact_nonneg positive) (exact_powerOfTen_pos within).le

/-- Only finite doubles come out. -/
theorem finite_of_scaled (bound : significand < 2 ^ 64)
    (bounds : 0 < significand → -616 ≤ power ∧ power ≤ 308)
    (found : scaled significand power = .some z) : IsFinite z := by
  rcases Nat.eq_zero_or_pos significand with rfl | some
  · rw [scaled_zero, Option.some_inj] at found
    rw [← found]
    decide
  obtain ⟨low, high⟩ := bounds some
  by_cases up : 0 ≤ power
  · have within : power.toNat ≤ 308 := by omega
    rw [scaled, if_pos up, scaleUp, if_pos within] at found
    dsimp only at found
    split at found
    · cases found
    · rename_i bounded
      cases found
      exact (finite_or_infinite_mul (fields_ofNat bound).1
        (powerOfTen_spec within).1).resolve_right bounded
  · obtain ⟨x, count, finite, positive, within, same, -⟩ :=
      exists_last_quotient bound low up fun _ => some
    rw [same, Option.some_inj] at found
    rw [← found]
    exact (fields_div_powerOfTen finite positive within).1

/-- What rounds to no double is out of range. -/
theorem exists_scaled_iff (bound : significand < 2 ^ 64)
    (bounds : 0 < significand → -616 ≤ power ∧ power ≤ 308) :
    (∃ z, scaled significand power = .some z) ↔ taken significand power < overflow := by
  constructor
  · rintro ⟨z, found⟩
    have result := finite_of_scaled bound bounds found
    exact ((scaled_eq_iff_of_bounds bound bounds result).mp found).2.lt_overflow result
  · intro small
    obtain ⟨z, result, same, holds⟩ := exists_holds (taken_nonneg bound bounds) small .positive
    exact ⟨z, (scaled_eq_iff_of_bounds bound bounds result).mpr ⟨same, holds⟩⟩

/-- Whole digits become the double that holds them. -/
theorem scaled_whole (bound : significand < 2 ^ 64) :
    scaled significand 0 = .some (UInt64.ofNat significand).toFloat := by
  obtain ⟨finite, positive, -⟩ := fields_ofNat bound
  have one : exact (powerOfTen 0) = 1 := by
    simpa using (powerOfTen_spec (Nat.zero_le 308)).2.2.2 (by norm_num)
  rw [scaled_eq_iff bound (by norm_num) (by norm_num) (by norm_num) finite]
  refine ⟨positive, ?_⟩
  rw [taken, if_pos le_rfl, Int.toNat_zero, one, mul_one, ← abs_of_positive positive]
  exact holds_exact _

/-- Where doubles have both the digits and the power of ten, only the last step rounds. -/
theorem taken_exact (narrow : significand ≤ 2 ^ 53) (moderate : power.natAbs ≤ 22) :
    taken significand power = significand * 10 ^ power := by
  have digits := (ofNat_exact narrow).1
  unfold taken
  dsimp only
  split
  · have within : power.toNat ≤ 308 := by omega
    have ten := (powerOfTen_spec within).2.2.2 (by omega)
    have same : ((power.toNat : ℕ) : ℤ) = power := by omega
    rw [digits, ten, ← zpow_natCast, same]
  · have within : (-power).toNat ≤ 308 := by omega
    have ten := (powerOfTen_spec within).2.2.2 (by omega)
    have same : (((-power).toNat : ℕ) : ℤ) = -power := by omega
    rw [if_pos (by omega), digits, ten, ← zpow_natCast, same, zpow_neg, div_inv_eq_mul]

/-- Such digits are taken for the double that is nearest to what is written. -/
theorem holds_of_taken (bound : significand < 2 ^ 64)
    (safe : power = 0 ∨ significand ≤ 2 ^ 53 ∧ power.natAbs ≤ 22) (result : IsFinite z)
    (positive : sign z = .positive) :
    Holds z (taken significand power) ↔ Holds z (significand * 10 ^ power) := by
  rcases safe with rfl | ⟨narrow, moderate⟩
  · have read : scaled significand 0 = .some z ↔ _ :=
      scaled_eq_iff bound (by norm_num) (by norm_num) (by norm_num) result
    rw [scaled_whole bound, Option.some_inj, ofNat_eq_iff bound result, eq_comm] at read
    simpa [positive] using read.symm
  · rw [taken_exact narrow moderate]

theorem signed_eq_iff {negative : Bool} : signed negative x = z ↔ x = signed negative z := by
  cases negative with
  | false => exact Iff.rfl
  | true =>
    constructor
    · rintro rfl
      exact (neg_involutive x).symm
    · rintro rfl
      exact neg_involutive z

/-- A sign changes nothing but the sign of a double. -/
theorem fields_signed (negative : Bool) (finite : IsFinite x) : IsFinite (signed negative x) ∧
    (sign (signed negative x) = .positive ↔ Binary64.negative x = negative) ∧
    ∀ v, Holds (signed negative x) v ↔ Holds x v := by
  cases negative with
  | false => exact ⟨finite, by simp [signed, sign], fun _ => Iff.rfl⟩
  | true =>
    obtain ⟨finite', opposite, same, same'⟩ := fields_neg finite
    refine ⟨finite', ?_, fun v => ?_⟩
    · rw [signed, if_pos rfl, opposite, sign]
      cases Binary64.negative x with
      | false => exact iff_of_false (fun same => by cases same) Bool.false_ne_true
      | true => exact iff_of_true rfl rfl
    · rw [signed, if_pos rfl, Holds, Holds, same, same']

end AggregateStage.Json
