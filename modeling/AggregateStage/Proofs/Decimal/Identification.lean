import AggregateStage.Proofs.Binary64.Operations

/-! Decimals that identify a double, and the shortest of them. Seventeen digits are enough for
every double, since a grid that fine has a point nearer to it than half of the way to the next
double. -/
namespace AggregateStage.Decimal

open Binary64

variable {x : Float} {digits : ℕ} {place : ℤ} {v w r : ℚ}

/-- A decimal that a double is the nearest to, with as few digits as there can be. -/
structure Shortest (x : Float) (digits : ℕ) (place : ℤ) : Prop where
  identifies : Holds x (digits * 10 ^ place)
  fewest : ∀ (count other : ℕ) (point : ℤ), other < 10 ^ count → Holds x (other * 10 ^ point) →
    digits < 10 ^ count

/-- What lies nearer to a double than its part in 2^54 is rounded to it. -/
theorem holds_of_near (near : |(r - |exact x|)| * 2 ^ 54 < |exact x|) : Holds x r := by
  have positive : (0 : ℚ) < 2 ^ power x := by positivity
  have narrow : (significand x : ℚ) ≤ 2 ^ 53 := by exact_mod_cast (significand_lt x).le
  have above := le_abs_self (r - |exact x|)
  have below := neg_abs_le (r - |exact x|)
  rw [abs_exact] at near above below
  generalize |r - significand x * 2 ^ power x| = distance at near above below
  have gap : distance <
      (if significand x = 2 ^ 52 ∧ -1074 < power x then 1 / 4 else 1 / 2) * 2 ^ power x := by
    split
    · rename_i edge
      have same : (significand x : ℚ) = 2 ^ 52 := by exact_mod_cast edge.1
      rw [same] at near
      linarith
    · nlinarith
  have half : distance < 1 / 2 * 2 ^ power x := by nlinarith
  have low : (significand x - (if significand x = 2 ^ 52 ∧ -1074 < power x then 1 / 4 else 1 / 2)) *
      2 ^ power x < r := by
    rw [sub_mul]
    linarith
  have high : r < (significand x + 1 / 2) * 2 ^ power x := by
    rw [add_mul]
    linarith
  exact ⟨low.le, high.le, fun tie => by rcases tie with tie | tie <;> linarith⟩

/-- The nearest natural number. -/
theorem exists_nearest (nonnegative : 0 ≤ w) : ∃ n : ℕ, |n - w| ≤ 1 / 2 := by
  refine ⟨⌊w + 1 / 2⌋₊, abs_le.mpr ⟨?_, ?_⟩⟩
  · have := Nat.lt_floor_add_one (w + 1 / 2)
    linarith
  · have := Nat.floor_le (show 0 ≤ w + 1 / 2 by linarith)
    linarith

/-- A grid of seventeen digits has a point within a part in 2 × 10^16 of every number. -/
theorem exists_grid_point (positive : 0 < v) : ∃ (digits : ℕ) (place : ℤ),
    digits < 10 ^ 17 ∧ |digits * 10 ^ place - v| * (2 * 10 ^ 16) ≤ v := by
  obtain ⟨lead, low, high⟩ := exists_mem_Ico_zpow positive (show (1 : ℚ) < 10 by norm_num)
  have step : (0 : ℚ) < 10 ^ (lead - 16) := by positivity
  have unit : (10 : ℚ) ^ lead = 10 ^ (lead - 16) * 10 ^ 16 := by
    rw [← zpow_natCast, ← zpow_add₀ (by norm_num)]
    congr 1
    omega
  rw [zpow_add_one₀ (by norm_num), unit] at high
  rw [unit] at low
  obtain ⟨n, near⟩ := exists_nearest (div_nonneg positive.le step.le)
  have spread : |n * 10 ^ (lead - 16) - v| ≤ 1 / 2 * 10 ^ (lead - 16) := by
    have scaled : n * 10 ^ (lead - 16) - v = (n - v / 10 ^ (lead - 16)) * 10 ^ (lead - 16) := by
      field_simp
    rw [scaled, abs_mul, abs_of_pos step]
    gcongr
  have close : |n * 10 ^ (lead - 16) - v| * (2 * 10 ^ 16) ≤ v := by linarith
  by_cases carry : n < 10 ^ 17
  · exact ⟨n, lead - 16, carry, close⟩
  · -- The number is rounded up to the next power of ten.
    have below : v / 10 ^ (lead - 16) < 10 ^ 17 := by
      rw [div_lt_iff₀ step]
      linarith
    have bound : (n : ℚ) < 10 ^ 17 + 1 := by
      have := le_abs_self (n - v / 10 ^ (lead - 16))
      linarith
    have bound' : n < 10 ^ 17 + 1 := by exact_mod_cast bound
    obtain rfl : n = 10 ^ 17 := by omega
    refine ⟨10 ^ 16, lead - 15, by norm_num, ?_⟩
    have shifted : ((10 ^ 16 : ℕ) * 10 ^ (lead - 15) : ℚ) = (10 ^ 17 : ℕ) * 10 ^ (lead - 16) := by
      rw [show lead - 15 = lead - 16 + 1 by omega, zpow_add_one₀ (by norm_num)]
      push_cast
      ring
    rwa [shifted]

/-- Seventeen digits identify every double but zero. -/
theorem exists_seventeen_digits (some : 0 < significand x) :
    ∃ (digits : ℕ) (place : ℤ), digits < 10 ^ 17 ∧ Holds x (digits * 10 ^ place) := by
  have positive : 0 < |exact x| := by
    have least : (0 : ℚ) < significand x := by exact_mod_cast some
    rw [abs_exact]
    positivity
  obtain ⟨digits, place, short, close⟩ := exists_grid_point positive
  refine ⟨digits, place, short, holds_of_near ?_⟩
  nlinarith

/-- There is nothing shorter than one digit. -/
theorem Shortest.of_digit (some : 0 < significand x) (digit : digits < 10)
    (holds : Holds x (digits * 10 ^ place)) : Shortest x digits place := by
  refine ⟨holds, fun count other point few identifies => ?_⟩
  rcases Nat.eq_zero_or_pos count with rfl | least
  · rw [show other = 0 by omega, Nat.cast_zero, zero_mul, holds_zero] at identifies
    omega
  · exact digit.trans_le (Nat.le_self_pow least.ne' 10)

theorem Shortest.eq_zero (shortest : Shortest x digits place) (zero : significand x = 0) :
    digits = 0 := by
  have few := shortest.fewest 0 0 0 (by norm_num) (by simpa using holds_zero.mpr zero)
  omega

theorem Shortest.lt (shortest : Shortest x digits place) : digits < 10 ^ 17 := by
  rcases Nat.eq_zero_or_pos (significand x) with zero | some
  · rw [shortest.eq_zero zero]
    norm_num
  · obtain ⟨other, point, short, holds⟩ := exists_seventeen_digits some
    exact shortest.fewest 17 other point short holds

/-- Every double has shortest digits. -/
theorem exists_shortest (x : Float) : ∃ digits place, Shortest x digits place := by
  have enough : ∃ (count digits : ℕ) (place : ℤ), digits < 10 ^ count ∧
      Holds x (digits * 10 ^ place) := by
    rcases Nat.eq_zero_or_pos (significand x) with zero | some
    · exact ⟨0, 0, 0, by norm_num, by simpa using holds_zero.mpr zero⟩
    · exact ⟨17, exists_seventeen_digits some⟩
  classical
  obtain ⟨digits, place, few, holds⟩ := Nat.find_spec enough
  refine ⟨digits, place, holds, fun count other point short also => ?_⟩
  have least : Nat.find enough ≤ count := Nat.find_min' enough ⟨other, point, short, also⟩
  exact few.trans_le (Nat.pow_le_pow_right (by norm_num) least)

end AggregateStage.Decimal
