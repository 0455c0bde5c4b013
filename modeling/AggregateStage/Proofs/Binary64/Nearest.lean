import AggregateStage.Proofs.Binary64.Fields

/-! Doubles rounded to whole numbers. Rounding is a relation between exact numbers, from which
order and symmetry follow; the whole numbers computed from the bits of a double stand in it. -/
namespace AggregateStage.Binary64

open Float.Model.UnpackedFloat

variable {x y : Float}

/-- No whole number is nearer to the rational one, and none as near is farther from zero. -/
structure RoundsTo (q : ℚ) (n : ℤ) : Prop where
  nearest : ∀ other : ℤ, |(n : ℚ) - q| ≤ |(other : ℚ) - q|
  away : ∀ other : ℤ, |(other : ℚ) - q| = |(n : ℚ) - q| → |other| ≤ |n|

namespace RoundsTo

variable {p q : ℚ} {m n : ℤ}

theorem of_bounds (nonnegative : 0 ≤ q) (low : q - 1 / 2 < n) (high : n ≤ q + 1 / 2) :
    RoundsTo q n := by
  have near : |(n : ℚ) - q| ≤ 1 / 2 := abs_le.mpr ⟨by linarith, by linarith⟩
  have above {other : ℤ} (more : n < other) : 1 / 2 < |(other : ℚ) - q| := by
    have step : (n : ℚ) + 1 ≤ other := by exact_mod_cast more
    exact lt_of_lt_of_le (by linarith) (le_abs_self _)
  have below {other : ℤ} (less : other < n) : q - other ≤ |(other : ℚ) - q| ∧ 1 / 2 ≤ q - other := by
    have step : (other : ℚ) + 1 ≤ n := by exact_mod_cast less
    exact ⟨neg_sub (other : ℚ) q ▸ neg_le_abs _, by linarith⟩
  constructor
  · intro other
    rcases lt_trichotomy other n with less | rfl | more
    · exact near.trans ((below less).2.trans (below less).1)
    · exact le_rfl
    · exact near.trans (above more).le
  · intro other tie
    rcases lt_trichotomy other n with less | rfl | more
    · have opposite : (other : ℚ) = q - 1 / 2 := by
        have := below less
        linarith
      have half : (n : ℚ) = q + 1 / 2 := by
        have step : (other : ℚ) + 1 ≤ n := by exact_mod_cast less
        linarith
      have bound : |(other : ℚ)| ≤ |(n : ℚ)| := by
        rw [opposite, half, abs_of_nonneg (by linarith : 0 ≤ q + 1 / 2)]
        exact abs_le.mpr ⟨by linarith, by linarith⟩
      exact_mod_cast bound
    · exact le_rfl
    · exact absurd tie (near.trans_lt (above more)).ne'

theorem neg (rounds : RoundsTo q n) : RoundsTo (-q) (-n) := by
  have mirror (k : ℤ) : |((-k : ℤ) : ℚ) - -q| = |(k : ℚ) - q| := by
    rw [Int.cast_neg, ← abs_neg]
    congr 1
    ring
  constructor
  · intro other
    rw [mirror, ← neg_neg other, mirror]
    exact rounds.nearest (-other)
  · intro other tie
    rw [mirror, ← neg_neg other, mirror] at tie
    rw [abs_neg, ← abs_neg other]
    exact rounds.away (-other) tie

theorem of_whole (n : ℤ) : RoundsTo n n := by
  constructor
  · intro other
    rw [sub_self, abs_zero]
    exact abs_nonneg _
  · intro other tie
    rw [sub_self, abs_zero, abs_eq_zero, sub_eq_zero] at tie
    have same : other = n := by exact_mod_cast tie
    rw [same]

theorem abs_le_two_mul (rounds : RoundsTo q n) : |(n : ℚ)| ≤ 2 * |q| := by
  have closer := rounds.nearest 0
  have apart := abs_sub_abs_le_abs_sub (n : ℚ) q
  rw [Int.cast_zero, zero_sub, abs_neg] at closer
  linarith

/-- Where rounding could cross over, both numbers lie half-way between the results, which are
then zero. -/
theorem monotone (first : RoundsTo p m) (second : RoundsTo q n) (ordered : p ≤ q) : m ≤ n := by
  by_contra crossed
  have apart : (n : ℚ) + 1 ≤ m := by exact_mod_cast not_le.mp crossed
  have past : (m + n : ℚ) / 2 ≤ p := by
    have closer := sq_le_sq.mpr (first.nearest n)
    nlinarith
  have short : q ≤ (m + n : ℚ) / 2 := by
    have closer := sq_le_sq.mpr (second.nearest m)
    nlinarith
  have middle : p = (m + n : ℚ) / 2 := by linarith
  have same : q = p := by linarith
  have tie : |(n : ℚ) - p| = |(m : ℚ) - p| := by
    rw [middle, ← abs_neg]
    congr 1
    ring
  have sizes : |m| = |n| :=
    le_antisymm (second.away m (by rw [same, tie])) (first.away n tie)
  have opposite : m = -n := (abs_eq_abs.mp sizes).resolve_left (by omega)
  have zero : p = 0 := by rw [middle, opposite]; push_cast; ring
  have least := first.nearest 0
  rw [zero, Int.cast_zero, sub_zero, sub_zero, abs_zero] at least
  have none : (m : ℚ) = 0 := abs_nonpos_iff.mp least
  have none' : m = 0 := by exact_mod_cast none
  omega

theorem unique (first : RoundsTo q m) (second : RoundsTo q n) : m = n :=
  le_antisymm (first.monotone second le_rfl) (second.monotone first le_rfl)

/-- Adding a half and dividing with the remainder dropped rounds a nonnegative fraction. -/
theorem of_division (numerator : ℕ) {denominator : ℕ} (positive : 0 < denominator) :
    RoundsTo (numerator / denominator : ℚ)
      ((2 * numerator + denominator) / (2 * denominator) : ℕ) := by
  have positive' : (0 : ℚ) < denominator := by exact_mod_cast positive
  set whole := (2 * numerator + denominator) / (2 * denominator) with computed
  have division := Nat.div_add_mod (2 * numerator + denominator) (2 * denominator)
  have remainder := Nat.mod_lt (2 * numerator + denominator) (Nat.mul_pos two_pos positive)
  rw [← computed] at division
  have upper : 2 * denominator * whole ≤ 2 * numerator + denominator := by omega
  have lower : 2 * numerator + denominator < 2 * denominator * whole + 2 * denominator := by omega
  have upper' : 2 * denominator * whole ≤ (2 * numerator + denominator : ℚ) := by
    exact_mod_cast upper
  have lower' : (2 * numerator + denominator : ℚ) < 2 * denominator * whole + 2 * denominator := by
    exact_mod_cast lower
  apply of_bounds
  · positivity
  · rw [div_sub_div _ _ positive'.ne' two_ne_zero, div_lt_iff₀ (by positivity)]
    push_cast
    linarith
  · rw [div_add_div _ _ positive'.ne' two_ne_zero, le_div_iff₀ (by positivity)]
    push_cast
    linarith

end RoundsTo

theorem scale_pos : 0 < scale := by
  have positive : (0 : ℚ) < scale := by rw [cast_scale]; positivity
  exact_mod_cast positive

theorem nearest_rounds (x : Float) : RoundsTo (exact x) (nearest x) := by
  have rounds := RoundsTo.of_division (magnitude x) scale_pos
  unfold exact units nearest
  split
  · rw [Int.cast_neg, neg_div]
    exact rounds.neg
  · exact rounds

theorem nearest_neg (finite : IsFinite x) : nearest (-x) = -nearest x := by
  have rounds := nearest_rounds (-x)
  rw [exact_neg finite] at rounds
  exact rounds.unique (nearest_rounds x).neg

/-- Of two significands in full use, the one with the larger power is the larger number. -/
theorem Canonical.le {m m' : ℕ} {e e' : ℤ} (fits : Canonical m e) (fits' : Canonical m' e')
    (ordered : e < e' ∨ e = e' ∧ m ≤ m') : (m : ℚ) * 2 ^ e ≤ m' * 2 ^ e' := by
  rcases ordered with lower | ⟨rfl, less⟩
  · have full : 2 ^ 52 ≤ m' := fits'.full.resolve_right (by have := fits.low; omega)
    have narrow : (m : ℚ) ≤ 2 ^ 53 := by exact_mod_cast fits.narrow.le
    have full' : (2 : ℚ) ^ 52 ≤ m' := by exact_mod_cast full
    calc (m : ℚ) * 2 ^ e ≤ 2 ^ 53 * 2 ^ e := by gcongr
      _ = 2 ^ 52 * 2 ^ (e + 1) := by rw [zpow_add_one₀ two_ne_zero]; ring
      _ ≤ 2 ^ 52 * 2 ^ e' := by gcongr <;> [norm_num; omega]
      _ ≤ m' * 2 ^ e' := by gcongr
  · gcongr

theorem exact_of_zero (zero : significand x = 0) : exact x = 0 := by
  rw [exact_eq, zero]
  cases sign x <;> simp [Sign.apply]

theorem exact_positive (positive : sign x = .positive) : 0 ≤ exact x := by
  rw [exact_eq, positive]
  simp only [Sign.apply]
  positivity

theorem exact_negative (negative : sign x = .negative) : exact x ≤ 0 := by
  rw [exact_eq, negative]
  simp only [Sign.apply]
  push_cast
  rw [neg_mul]
  exact neg_nonpos.mpr (by positivity)

theorem isLE_then {e e' : ℤ} {m m' : ℕ} :
    ((compare e e').then (compare m m')).isLE ↔ e < e' ∨ e = e' ∧ m ≤ m' := by
  rcases lt_trichotomy e e' with less | rfl | more
  · simp [compare_lt_iff_lt.mpr less, less]
  · simp [Nat.isLE_compare]
  · simp [compare_gt_iff_gt.mpr more, more.not_gt, more.ne']

theorem isLE_swap_then {e e' : ℤ} {m m' : ℕ} :
    ((compare e e').then (compare m m')).swap.isLE ↔ e' < e ∨ e' = e ∧ m' ≤ m := by
  rw [Ordering.swap_then, Int.compare_swap, Nat.compare_swap, isLE_then]

theorem exact_le_of_nonzero (some : 0 < significand x) (some' : 0 < significand y)
    (compared : Float.Model.UnpackedFloat.le (.finite (sign x) (significand x) (power x) some)
      (.finite (sign y) (significand y) (power y) some')) : exact x ≤ exact y := by
  rcases hx : sign x with _ | _ <;> rcases hy : sign y with _ | _
  · rw [hx, hy] at compared
    have sizes := (canonical y).le (canonical x) (isLE_swap_then.mp compared)
    rw [exact_eq, exact_eq, hx, hy]
    simpa [Sign.apply] using sizes
  · exact (exact_negative hx).trans (exact_positive hy)
  · rw [hx, hy] at compared
    contradiction
  · rw [hx, hy] at compared
    have sizes := (canonical x).le (canonical y) (isLE_then.mp compared)
    rw [exact_eq, exact_eq, hx, hy]
    simpa [Sign.apply] using sizes

theorem exact_le (finite : IsFinite x) (finite' : IsFinite y)
    (compared : x.toModel.unpack.le y.toModel.unpack) : exact x ≤ exact y := by
  rcases Nat.eq_zero_or_pos (significand x) with zero | some <;>
    rcases Nat.eq_zero_or_pos (significand y) with zero' | some'
  · rw [exact_of_zero zero, exact_of_zero zero']
  · rw [unpack_zero finite zero, unpack_nonzero finite' some'] at compared
    rcases hy : sign y with _ | _
    · rw [hy] at compared; contradiction
    · exact (exact_of_zero zero).trans_le (exact_positive hy)
  · rw [unpack_nonzero finite some, unpack_zero finite' zero'] at compared
    rcases hx : sign x with _ | _
    · exact (exact_negative hx).trans (exact_of_zero zero').ge
    · rw [hx] at compared; contradiction
  · rw [unpack_nonzero finite some, unpack_nonzero finite' some'] at compared
    exact exact_le_of_nonzero some some' compared

theorem not_le_nan (u : Float.Model.UnpackedFloat) : ¬u.le .notANumber := by
  cases u <;> simp [Float.Model.UnpackedFloat.le, Float.Model.UnpackedFloat.compare]

theorem eq_of_le_infinity {u : Float.Model.UnpackedFloat}
    (compared : u.le (.infinity .negative)) : u = .infinity .negative := by
  rcases u with (_ | _) | _ | _ | ⟨_ | _, _, _, _⟩ <;> first | rfl | contradiction

theorem eq_of_infinity_le {u : Float.Model.UnpackedFloat}
    (compared : Float.Model.UnpackedFloat.le (.infinity .positive) u) : u = .infinity .positive := by
  rcases u with (_ | _) | _ | _ | ⟨_ | _, _, _, _⟩ <;> first | rfl | contradiction

/-- Comparing doubles compares their values, with the infinities at the ends. -/
theorem le_cases (ordered : x ≤ y) : isInfinite x ∧ sign x = .negative ∨
    isInfinite y ∧ sign y = .positive ∨ IsFinite x ∧ IsFinite y ∧ exact x ≤ exact y := by
  have compared : x.toModel.unpack.le y.toModel.unpack = true := by
    have decided : Float.le x y = true := ordered
    rwa [Float.le, decide_eq_true_eq] at decided
  have finite_or (z : Float) : isNaN z ∨ isInfinite z ∨ IsFinite z := by
    rcases kinds z with nan | infinite | ⟨finite, -⟩ | ⟨finite, -⟩ <;> tauto
  rcases finite_or y with nan | infinite | finite'
  · rw [unpack_nan nan] at compared
    exact absurd compared (not_le_nan _)
  · rcases hy : sign y with _ | _
    · rw [unpack_infinite infinite, hy] at compared
      exact .inl (fields_of_infinity (eq_of_le_infinity compared))
    · exact .inr (.inl ⟨infinite, rfl⟩)
  rcases finite_or x with nan | infinite | finite
  · rw [unpack_nan nan] at compared
    contradiction
  · rcases hx : sign x with _ | _
    · exact .inl ⟨infinite, rfl⟩
    · rw [unpack_infinite infinite, hx] at compared
      exact .inr (.inl (fields_of_infinity (eq_of_infinity_le compared)))
  · exact .inr (.inr ⟨finite, finite', exact_le finite finite' compared⟩)

/-- The ends of the range take what lies beyond them. -/
theorem toInt_clamp (n : ℤ) : (clamp n).toInt = max (-2 ^ 63) (min n (2 ^ 63 - 1)) := by
  have least : Int64.minValue.toInt = -2 ^ 63 := rfl
  have greatest : Int64.maxValue.toInt = 2 ^ 63 - 1 := rfl
  unfold clamp
  split
  · omega
  split
  · omega
  · rw [Int64.toInt_ofInt_of_le] <;> omega

theorem toInt64_nan (nan : isNaN x) : toInt64 x = 0 := by rw [toInt64, if_pos nan]

theorem toInt64_infinite (infinite : isInfinite x) :
    toInt64 x = if negative x then Int64.minValue else Int64.maxValue := by
  have number : ¬isNaN x := by
    unfold isInfinite at infinite
    unfold isNaN
    simp_all
  rw [toInt64, if_neg number, if_pos infinite]

theorem toInt64_finite (finite : IsFinite x) : toInt64 x = clamp (nearest x) := by
  have number : ¬isNaN x := by simp [isNaN, show exponent x ≠ 2047 from finite]
  have bounded : ¬isInfinite x := by simp [isInfinite, show exponent x ≠ 2047 from finite]
  rw [toInt64, if_neg number, if_neg bounded]

theorem negative_iff (x : Float) : sign x = .negative ↔ negative x := by
  unfold sign
  split <;> simp_all

/-- Larger doubles round to larger whole numbers. -/
theorem toInt64_monotone (ordered : x ≤ y) : toInt64 x ≤ toInt64 y := by
  rcases le_cases ordered with ⟨infinite, low⟩ | ⟨infinite, high⟩ | ⟨finite, finite', less⟩
  · rw [toInt64_infinite infinite, if_pos ((negative_iff x).mp low)]
    exact Int64.minValue_le (toInt64 y)
  · rw [toInt64_infinite infinite, if_neg (by rw [← negative_iff, high]; simp)]
    exact Int64.le_maxValue (toInt64 x)
  · have rounded := (nearest_rounds x).monotone (nearest_rounds y) less
    rw [toInt64_finite finite, toInt64_finite finite', Int64.le_iff_toInt_le, toInt_clamp,
      toInt_clamp]
    omega

/-- Doubles with a power that is not negative are whole already, and the others are so small
that rounding does not leave the range. -/
theorem nearest_lt (small : |exact x| < 2 ^ 63) : |nearest x| < 2 ^ 63 := by
  rcases le_or_gt 0 (power x) with whole | fractional
  · obtain ⟨shift, shifted⟩ := Int.eq_ofNat_of_zero_le whole
    have value : exact x = ((sign x).apply (significand x) * 2 ^ shift : ℤ) := by
      rw [exact_eq, shifted]
      push_cast
      rfl
    have same := (nearest_rounds x).unique (value ▸ RoundsTo.of_whole _)
    rw [value, ← same] at small
    exact_mod_cast small
  · have narrow : (significand x : ℚ) ≤ 2 ^ 53 := by exact_mod_cast (significand_lt x).le
    have bound : |(nearest x : ℚ)| ≤ 2 ^ 53 :=
      calc |(nearest x : ℚ)| ≤ 2 * (significand x * 2 ^ power x) :=
            abs_exact x ▸ (nearest_rounds x).abs_le_two_mul
        _ ≤ 2 * (2 ^ 53 * 2 ^ (-1 : ℤ)) := by gcongr <;> [norm_num; omega]
        _ = 2 ^ 53 := by norm_num
    have bound' : |nearest x| ≤ 2 ^ 53 := by exact_mod_cast bound
    exact bound'.trans_lt (by norm_num)

theorem toInt64_neg (finite : IsFinite x) (small : |exact x| < 2 ^ 63) :
    (toInt64 (-x)).toInt = -(toInt64 x).toInt := by
  have within := abs_lt.mp (nearest_lt small)
  rw [toInt64_finite finite, toInt64_finite (fields_neg finite).1, nearest_neg finite, toInt_clamp,
    toInt_clamp]
  omega

end AggregateStage.Binary64
