import AggregateStage.Proofs.Decimal.Identification
import AggregateStage.Proofs.Json.Precision

/-! The digits of a numeral that are kept. A numeral of few digits loses none but zeros, whether
these stand before its point or behind it, so that what is kept has its value. -/
namespace AggregateStage.Json

open Binary64

variable {n : Numeral} {x y : Float} {digits more rest : List Char} {value kept : ℕ} {c : Char}

theorem digitValue_lt (digit : Decimal.isDigit c) : Decimal.digitValue c < 10 := by
  have upper : c ≤ '9' := by simp_all [Decimal.isDigit]
  have bound : c.toNat ≤ '9'.toNat := upper
  have nine : '9'.toNat = 57 := rfl
  have zero : '0'.toNat = 48 := rfl
  rw [Decimal.digitValue]
  omega

theorem appendDigits_append (value : ℕ) (digits more : List Char) :
    appendDigits value (digits ++ more) = appendDigits (appendDigits value digits) more :=
  List.foldl_append

theorem appendDigits_eq (value : ℕ) (digits : List Char) :
    appendDigits value digits = value * 10 ^ digits.length + Decimal.ofDigits digits := by
  induction digits generalizing value with
  | nil => simp [appendDigits, Decimal.ofDigits]
  | cons digit digits ih =>
    have step : appendDigits value (digit :: digits) =
      appendDigits (10 * value + Decimal.digitValue digit) digits := rfl
    have first : Decimal.ofDigits (digit :: digits) =
      appendDigits (10 * 0 + Decimal.digitValue digit) digits := rfl
    rw [step, first, ih, ih, List.length_cons, Nat.pow_succ]
    ring

theorem ofDigits_lt (all : ∀ digit ∈ digits, Decimal.isDigit digit) :
    Decimal.ofDigits digits < 10 ^ digits.length := by
  induction digits with
  | nil => norm_num [Decimal.ofDigits]
  | cons digit digits ih =>
    have first : Decimal.ofDigits (digit :: digits) =
      appendDigits (10 * 0 + Decimal.digitValue digit) digits := rfl
    have small := digitValue_lt (all digit (by simp))
    have tail := ih fun other member => all other (by simp [member])
    rw [first, appendDigits_eq, List.length_cons, Nat.pow_succ]
    nlinarith

/-- What is left over are the last digits, the first of which has no room any more. -/
structure Gathered (value : ℕ) (digits : List Char) (kept : ℕ) (rest : List Char) : Prop where
  fits : kept < 2 ^ 64
  suffix : rest <:+ digits
  whole : appendDigits kept rest = appendDigits value digits
  full : ∀ digit ∈ rest.head?, 2 ^ 64 ≤ 10 * kept + Decimal.digitValue digit

theorem gathered (value : ℕ) (digits : List Char) (fits : value < 2 ^ 64) :
    Gathered value digits (gather value digits).1 (gather value digits).2 := by
  induction digits generalizing value with
  | nil => exact ⟨fits, List.suffix_rfl, rfl, by simp [gather]⟩
  | cons digit digits ih =>
    rw [gather]
    split
    · rename_i room
      obtain ⟨fits, suffix, whole, full⟩ := ih _ room
      exact ⟨fits, suffix.trans (List.suffix_cons _ _), whole, full⟩
    · rename_i none
      refine ⟨fits, List.suffix_rfl, rfl, ?_⟩
      rintro _ ⟨⟩
      exact Nat.le_of_not_lt none

/-- A number of few digits and zeros has zeros behind any seventeen leading digits. -/
theorem rest_zero {number few left rest : ℕ} {shift : ℤ} (short : few < 10 ^ 17)
    (same : (number : ℚ) = few * 10 ^ shift) (split : number = kept * 10 ^ left + rest)
    (small : rest < 10 ^ left) (long : 10 ^ 17 ≤ kept) : rest = 0 := by
  by_cases within : (left : ℤ) ≤ shift
  · lift shift to ℕ using by omega
    have same' : number = few * 10 ^ shift := by exact_mod_cast same
    have divides : 10 ^ left ∣ number :=
      same' ▸ Dvd.dvd.mul_left (pow_dvd_pow 10 (by omega)) few
    rw [split, Nat.dvd_add_right (Dvd.intro_left kept rfl)] at divides
    exact Nat.eq_zero_of_dvd_of_lt divides small
  · -- So large a number has more digits.
    exfalso
    have bound : (number : ℚ) < 10 ^ 17 * 10 ^ (left : ℤ) := by
      rw [same]
      have short' : (few : ℚ) < 10 ^ 17 := by exact_mod_cast short
      have power : (10 : ℚ) ^ shift ≤ 10 ^ (left : ℤ) := by gcongr <;> [norm_num; omega]
      have positive : (0 : ℚ) < 10 ^ (left : ℤ) := by positivity
      calc (few : ℚ) * 10 ^ shift ≤ few * 10 ^ (left : ℤ) := by gcongr
        _ < 10 ^ 17 * 10 ^ (left : ℤ) := by gcongr
    rw [zpow_natCast] at bound
    have bound' : number < 10 ^ 17 * 10 ^ left := by exact_mod_cast bound
    have large : 10 ^ 17 * 10 ^ left ≤ kept * 10 ^ left := Nat.mul_le_mul_right _ long
    omega

theorem gather_full (full : 2 ^ 64 ≤ 10 * kept) (digits : List Char) :
    gather kept digits = (kept, digits) := by
  cases digits with
  | nil => rfl
  | cons digit digits =>
    rw [gather]
    exact if_neg (Nat.not_lt.mpr (full.trans (Nat.le_add_right _ _)))

/-- Digits are only left over of a number of few digits if they are zeros. -/
theorem left_over_zero {few : ℕ} {shift : ℤ} (short : few < 10 ^ 17)
    (same : (appendDigits kept rest : ℚ) = few * 10 ^ shift)
    (all : ∀ digit ∈ rest, Decimal.isDigit digit)
    (full : ∀ digit ∈ rest.head?, 2 ^ 64 ≤ 10 * kept + Decimal.digitValue digit) :
    Decimal.ofDigits rest = 0 ∧ (rest = [] ∨ 2 ^ 64 ≤ 10 * kept) := by
  cases rest with
  | nil => exact ⟨rfl, .inl rfl⟩
  | cons digit rest =>
    have room := full digit rfl
    have small := digitValue_lt (all digit (by simp))
    have zero := rest_zero short same (appendDigits_eq _ _) (ofDigits_lt all) (by omega)
    have first : Decimal.digitValue digit ≤ Decimal.ofDigits (digit :: rest) :=
      (Nat.le_add_left _ _).trans (le_appendDigits (10 * 0 + Decimal.digitValue digit) rest)
    exact ⟨zero, .inr (by omega)⟩

/-- Both parts of a number of few digits are gathered to its value less some zeros, and to as
many digits as there is room for. -/
theorem gather_both {whole fraction dropped unread : List Char} {leading few : ℕ} {shift : ℤ}
    (all : ∀ digit ∈ whole ++ fraction, Decimal.isDigit digit) (short : few < 10 ^ 17)
    (same : (Decimal.ofDigits (whole ++ fraction) : ℚ) = few * 10 ^ shift)
    (first : gather 0 whole = (leading, dropped)) (second : gather leading fraction = (kept, unread)) :
    kept < 2 ^ 64 ∧ unread.length ≤ fraction.length ∧
      Decimal.ofDigits (whole ++ fraction) = kept * 10 ^ (dropped.length + unread.length) ∧
      (dropped.length + unread.length = 0 ∨ 2 ^ 64 ≤ 10 * kept) := by
  have one := gathered 0 whole (by norm_num)
  rw [first] at one
  have total : Decimal.ofDigits (whole ++ fraction) = appendDigits leading (dropped ++ fraction) := by
    rw [ofDigits_append, appendDigits_append, one.whole]
    rfl
  rw [total] at same ⊢
  cases dropped with
  | nil =>
    have two := gathered leading fraction one.fits
    rw [second] at two
    rw [List.nil_append, ← two.whole] at same ⊢
    have digits (digit : Char) (member : digit ∈ unread) : Decimal.isDigit digit :=
      all digit (List.mem_append_right _ (two.suffix.subset member))
    obtain ⟨zero, most⟩ := left_over_zero short same digits two.full
    refine ⟨two.fits, two.suffix.length_le, ?_, ?_⟩
    · rw [appendDigits_eq, zero, List.length_nil, Nat.zero_add, Nat.add_zero]
    · simpa using most
  | cons digit dropped =>
    have digits (other : Char) (member : other ∈ digit :: dropped ++ fraction) :
        Decimal.isDigit other := by
      rcases List.mem_append.mp member with before | behind
      · exact all other (List.mem_append_left _ (one.suffix.subset before))
      · exact all other (List.mem_append_right _ behind)
    obtain ⟨zero, none | full⟩ := left_over_zero short same digits one.full
    · cases none
    · -- There is no room for a digit of the fraction either.
      rw [gather_full full] at second
      cases second
      exact ⟨one.fits, le_rfl, by rw [appendDigits_eq, zero, List.length_append, Nat.add_zero],
        .inr full⟩

namespace Numeral

/-- All digits of a numeral as one number. -/
def number (n : Numeral) : ℕ := Decimal.ofDigits (n.whole ++ n.fraction)

/-- The exponent as it is written, zero if there is none. -/
def exponentValue (n : Numeral) : ℤ :=
  match n.exponent with
  | none => 0
  | some (down, digits) =>
    if down then -(Decimal.ofDigits digits : ℤ) else Decimal.ofDigits digits

/-- The power of ten of the last digit. -/
def power (n : Numeral) : ℤ := n.exponentValue - n.fraction.length

/-- What is written, without its sign. -/
def size (n : Numeral) : ℚ := n.number * 10 ^ n.power

/-- Digits and a power of ten that make up a numeral, where the last digits are left out if they
have no room in 64 bits. -/
structure Keeps (n : Numeral) (significand : ℕ) (power : ℤ) : Prop where
  size : (significand : ℚ) * 10 ^ power = n.size
  fits : significand < 2 ^ 64
  leading : n.power ≤ power
  most : power = n.power ∨ 2 ^ 64 ≤ 10 * significand

theorem Keeps.le {significand other : ℕ} {power point : ℤ} (keeps : n.Keeps significand power)
    (also : n.Keeps other point) : power ≤ point := by
  by_contra finer
  have full := keeps.most.resolve_left (by have := also.leading; omega)
  have same : (significand : ℚ) * 10 ^ (power - point) = other := by
    rw [zpow_sub₀ (by norm_num), ← mul_div_assoc, keeps.size, ← also.size]
    field_simp
  have ten : (10 : ℚ) ≤ 10 ^ (power - point) :=
    calc (10 : ℚ) = 10 ^ (1 : ℤ) := (zpow_one 10).symm
      _ ≤ 10 ^ (power - point) := zpow_le_zpow_right₀ (by norm_num) (by omega)
  have large : (significand : ℚ) * 10 ≤ other := same ▸ by gcongr
  have large' : significand * 10 ≤ other := by exact_mod_cast large
  have := also.fits
  omega

/-- What a numeral keeps is determined. -/
theorem Keeps.unique {significand other : ℕ} {power point : ℤ} (keeps : n.Keeps significand power)
    (also : n.Keeps other point) : significand = other ∧ power = point := by
  obtain rfl : power = point := le_antisymm (keeps.le also) (also.le keeps)
  have step : (10 : ℚ) ^ power ≠ 0 := by positivity
  have same := mul_right_cancel₀ step (keeps.size.trans also.size.symm)
  exact ⟨by exact_mod_cast same, rfl⟩

theorem scaled_saturate {significand : ℕ} {power : ℤ}
    (moderate : 0 < significand → power.natAbs < 2 ^ 31) :
    scaled significand (saturate power) = scaled significand power := by
  rcases Nat.eq_zero_or_pos significand with rfl | some
  · rw [scaled_zero, scaled_zero]
  · have bound := moderate some
    have same : saturate power = power := by
      unfold saturate
      omega
    rw [same]

/-- The value of a numeral with both parts gathered. -/
theorem double?_of_gather {dropped unread : List Char} {leading : ℕ}
    (first : gather 0 n.whole = (leading, dropped))
    (second : gather leading n.fraction = (kept, unread)) (fits : kept < 2 ^ 64)
    (part : unread.length ≤ n.fraction.length) (small : n.exponentValue.natAbs < 2 ^ 31)
    (moderate : 0 < kept → (n.power + (dropped.length + unread.length : ℕ)).natAbs < 2 ^ 31) :
    n.double? = (scaled kept (n.power + (dropped.length + unread.length : ℕ))).map
      (signed n.negative) := by
  have point : (dropped.length : ℤ) - (n.fraction.length - unread.length : ℕ) =
      n.power + (dropped.length + unread.length : ℕ) - n.exponentValue := by
    unfold power
    omega
  cases marked : n.exponent with
  | none =>
    have zero : n.exponentValue = 0 := by rw [exponentValue, marked]
    rw [zero, sub_zero] at point
    simp only [double?, value, marked, first, second, point]
    split
    · rename_i empty
      simp only [Bool.and_eq_true, List.isEmpty_iff] at empty
      have none : n.power + (dropped.length + unread.length : ℕ) = 0 := by
        rw [empty.1] at part
        rw [← point, empty.1, empty.2]
        simp
      rw [none, scaled_whole fits]
      exact congrArg some (wholeNumber_toFloat n.negative kept)
    · cases scaled _ _ <;> rfl
  | some exponent =>
    obtain ⟨down, digits⟩ := exponent
    have given : n.exponentValue =
        if down then -(Decimal.ofDigits digits : ℤ) else Decimal.ofDigits digits := by
      rw [exponentValue, marked]
    have read : gatherExponent 0 digits = .ok (Decimal.ofDigits digits) := by
      apply gatherExponent_of_fits 0
      rw [given] at small
      show Decimal.ofDigits digits < Nat.pow 2 31
      rw [Nat.pow_eq]
      split at small <;> omega
    have total : (if down then (dropped.length : ℤ) - (n.fraction.length - unread.length : ℕ) -
        Decimal.ofDigits digits else (dropped.length : ℤ) -
        (n.fraction.length - unread.length : ℕ) + Decimal.ofDigits digits) =
        n.power + (dropped.length + unread.length : ℕ) := by
      rw [point, given]
      split <;> omega
    simp only [double?, value, marked, first, second, read, total]
    rw [scaled_saturate moderate]
    cases scaled _ _ <;> rfl

/-- Digits that all fit into 64 bits are all kept. -/
theorem double?_of_fits (fits : n.number < 2 ^ 64) (small : n.exponentValue.natAbs < 2 ^ 31)
    (moderate : 0 < n.number → n.power.natAbs < 2 ^ 31) :
    n.double? = (scaled n.number n.power).map (signed n.negative) := by
  have whole : n.number = appendDigits (Decimal.ofDigits n.whole) n.fraction := ofDigits_append _ _
  have within : appendDigits (Decimal.ofDigits n.whole) n.fraction < Nat.pow 2 64 := whole ▸ fits
  have first : gather 0 n.whole = (Decimal.ofDigits n.whole, []) :=
    gather_of_fits 0 ((le_appendDigits _ n.fraction).trans_lt within)
  have second : gather (Decimal.ofDigits n.whole) n.fraction = (n.number, []) := by
    rw [gather_of_fits _ within, whole]
  have read := double?_of_gather first second fits (Nat.zero_le _) small
  simp only [List.length_nil, Nat.cast_zero, add_zero] at read
  exact read moderate

/-- What is scaled and given its sign is the double of that sign that holds what the digits and
the power of ten round to, and no number if no double holds it. -/
theorem double?_eq_iff_of_scaled {significand : ℕ} {power : ℤ}
    (read : n.double? = (scaled significand power).map (signed n.negative))
    (fits : significand < 2 ^ 64) (bounds : 0 < significand → -616 ≤ power ∧ power ≤ 308) :
    ((∃ y, n.double? = some y) ↔ taken significand power < overflow) ∧
      ∀ y, IsFinite y → (n.double? = some y ↔
        Binary64.negative y = n.negative ∧ Holds y (taken significand power)) := by
  rw [read]
  refine ⟨?_, fun y result => ?_⟩
  · rw [← exists_scaled_iff fits bounds]
    cases scaled significand power <;> simp
  · obtain ⟨finite, positive, holds⟩ := fields_signed n.negative result
    rw [← positive, ← holds, ← scaled_eq_iff_of_bounds fits bounds finite, Option.map_eq_some_iff]
    constructor
    · rintro ⟨z, found, equal⟩
      rw [found, signed_eq_iff.mp equal]
    · exact fun found => ⟨_, found, signed_eq_iff.mpr rfl⟩

/-- The value of a numeral whose digits fit into 64 bits. Where doubles have both the digits and
the power of ten it is the double nearest to what is written. -/
theorem double?_eq_iff_of_fits (fits : n.number < 2 ^ 64)
    (small : n.exponentValue.natAbs < 2 ^ 31)
    (bounds : 0 < n.number → -616 ≤ n.power ∧ n.power ≤ 308) :
    ((∃ y, n.double? = some y) ↔ taken n.number n.power < overflow) ∧
      (∀ y, IsFinite y → (n.double? = some y ↔
        Binary64.negative y = n.negative ∧ Holds y (taken n.number n.power))) ∧
      (n.power = 0 ∨ n.number ≤ 2 ^ 53 ∧ n.power.natAbs ≤ 22 → ∀ y, IsFinite y →
        (n.double? = some y ↔ Binary64.negative y = n.negative ∧ Holds y n.size)) := by
  have read := double?_of_fits fits small fun some => by have := bounds some; omega
  obtain ⟨ranged, value⟩ := double?_eq_iff_of_scaled read fits bounds
  refine ⟨ranged, value, fun safe y result => ?_⟩
  rw [value y result]
  apply and_congr_right
  intro sign
  obtain ⟨finite, positive, holds⟩ := fields_signed n.negative result
  rw [← holds, holds_of_taken fits safe finite (positive.mpr sign), holds]
  exact Iff.rfl

/-- A numeral of few digits is taken for what it keeps, which is all of its value. -/
theorem exists_keeps {few : ℕ} {place : ℤ}
    (all : ∀ digit ∈ n.whole ++ n.fraction, Decimal.isDigit digit) (short : few < 10 ^ 17)
    (same : n.size = few * 10 ^ place) (small : n.exponentValue.natAbs < 2 ^ 31)
    (moderate : ∀ significand power, n.Keeps significand power → 0 < significand →
      power.natAbs < 2 ^ 31) :
    ∃ significand power, n.Keeps significand power ∧
      n.double? = (scaled significand power).map (signed n.negative) := by
  have whole : (Decimal.ofDigits (n.whole ++ n.fraction) : ℚ) = few * 10 ^ (place - n.power) := by
    rw [size, number] at same
    rw [zpow_sub₀ (by norm_num), ← mul_div_assoc, ← same]
    field_simp
  rcases first : gather 0 n.whole with ⟨leading, dropped⟩
  rcases second : gather leading n.fraction with ⟨kept, unread⟩
  obtain ⟨fits, part, total, most⟩ := gather_both all short whole first second
  have keeps : n.Keeps kept (n.power + (dropped.length + unread.length : ℕ)) := by
    refine ⟨?_, fits, by omega, most.imp_left fun none => by omega⟩
    rw [size, number, total, add_comm, zpow_add₀ (by norm_num), zpow_natCast]
    push_cast
    ring
  exact ⟨kept, _, keeps, double?_of_gather first second fits part small (moderate _ _ keeps)⟩

/-- A double in its shortest digits, in plain notation or with an exponent. No double needs one
that has more than 31 bits. -/
structure Prints (n : Numeral) (x : Float) : Prop where
  digits : ∀ digit ∈ n.whole ++ n.fraction, Decimal.isDigit digit
  exponent : n.exponentValue.natAbs < 2 ^ 31
  sign : n.negative = Binary64.negative x
  shortest : ∃ digits place, Decimal.Shortest x digits place ∧ n.size = digits * 10 ^ place

theorem Prints.holds (printed : n.Prints x) : Holds x n.size := by
  obtain ⟨digits, place, shortest, same⟩ := printed.shortest
  exact same ▸ shortest.identifies

theorem Prints.size_eq_zero (printed : n.Prints x) (zero : Binary64.significand x = 0) :
    n.size = 0 := by
  obtain ⟨digits, place, shortest, same⟩ := printed.shortest
  rw [same, shortest.eq_zero zero, Nat.cast_zero, zero_mul]

end Numeral

theorem two_zpow_le {a b : ℕ} (less : 2 ^ a ≤ 10 ^ b) : (2 : ℚ) ^ (a : ℤ) ≤ 10 ^ (b : ℤ) := by
  rw [zpow_natCast, zpow_natCast]
  exact_mod_cast less

/-- The power of ten is one that the reader applies in at most two steps. -/
theorem Numeral.Keeps.bounds {significand : ℕ} {power : ℤ} (keeps : n.Keeps significand power)
    (holds : Holds x n.size) (finite : IsFinite x) (some : 0 < Binary64.significand x) :
    -616 ≤ power ∧ power ≤ 308 := by
  have low := holds.ge_least some
  have high := holds.lt_overflow finite
  rw [← keeps.size] at low high
  have step : (0 : ℚ) < 10 ^ power := by positivity
  constructor
  · by_contra below
    have fits : (significand : ℚ) < 2 ^ (64 : ℤ) := by exact_mod_cast keeps.fits
    have large : (2 : ℚ) ^ (1139 : ℤ) ≤ 10 ^ (616 : ℤ) := two_zpow_le (by decide +kernel)
    have tiny : (10 : ℚ) ^ power ≤ 2 ^ (-1139 : ℤ) :=
      calc (10 : ℚ) ^ power ≤ 10 ^ (-616 : ℤ) :=
            zpow_le_zpow_right₀ (by norm_num) (by omega)
        _ ≤ 2 ^ (-1139 : ℤ) := by
            rw [zpow_neg, zpow_neg]
            exact inv_anti₀ (by positivity) large
    have less : (significand : ℚ) * 10 ^ power < 2 ^ (-1075 : ℤ) :=
      calc (significand : ℚ) * 10 ^ power < 2 ^ (64 : ℤ) * 10 ^ power := by gcongr
        _ ≤ 2 ^ (64 : ℤ) * 2 ^ (-1139 : ℤ) := by gcongr
        _ = 2 ^ (-1075 : ℤ) := by
            rw [← zpow_add₀ two_ne_zero]
            rfl
    exact absurd less (not_lt.mpr low)
  · by_contra above
    have large : overflow ≤ 10 ^ (309 : ℤ) :=
      calc overflow ≤ 2 ^ (53 : ℤ) * 2 ^ (971 : ℤ) :=
            mul_le_mul_of_nonneg_right (by norm_num) (by positivity)
        _ = 2 ^ (1024 : ℤ) := by
            rw [← zpow_add₀ two_ne_zero]
            rfl
        _ ≤ 10 ^ (309 : ℤ) := two_zpow_le (by decide +kernel)
    have grown : (10 : ℚ) ^ (309 : ℤ) ≤ 10 ^ power :=
      zpow_le_zpow_right₀ (by norm_num) (by omega)
    have positive : 0 < significand := by
      by_contra none
      rw [show significand = 0 by omega, Nat.cast_zero, zero_mul] at low
      exact absurd low (not_le.mpr (by positivity))
    have least : (1 : ℚ) ≤ significand := by exact_mod_cast positive
    have more : (10 : ℚ) ^ power ≤ significand * 10 ^ power :=
      le_mul_of_one_le_left step.le least
    exact absurd high (not_lt.mpr (large.trans (grown.trans more)))

theorem Numeral.Prints.bounds {significand : ℕ} {power : ℤ} (printed : n.Prints x)
    (finite : IsFinite x) (keeps : n.Keeps significand power) (some : 0 < significand) :
    -616 ≤ power ∧ power ≤ 308 := by
  apply keeps.bounds printed.holds finite
  by_contra zero
  have none := keeps.size.trans (printed.size_eq_zero (by omega))
  have positive : (0 : ℚ) < significand * 10 ^ power := by positivity
  exact positive.ne' none

/-- A numeral in the shortest digits of a double is taken for the double of its sign that holds
what its digits and power of ten are rounded to, and where no double does it is out of range. -/
theorem Numeral.Prints.double?_eq_iff (printed : n.Prints x) (finite : IsFinite x) :
    ∃ significand power, n.Keeps significand power ∧
      ((∃ y, n.double? = some y) ↔ taken significand power < overflow) ∧
      ∀ y, IsFinite y → (n.double? = some y ↔
        Binary64.negative y = n.negative ∧ Holds y (taken significand power)) := by
  obtain ⟨digits, place, shortest, same⟩ := printed.shortest
  obtain ⟨significand, power, keeps, read⟩ := exists_keeps printed.digits shortest.lt same
    printed.exponent fun s q keeps some => by have := printed.bounds finite keeps some; omega
  exact ⟨significand, power, keeps,
    double?_eq_iff_of_scaled read keeps.fits (printed.bounds finite keeps)⟩

/-- Digits and a power of ten that doubles have are taken for the double that they print. -/
theorem Numeral.Prints.holds_taken (printed : n.Prints x) (finite : IsFinite x)
    {significand : ℕ} {power : ℤ} (keeps : n.Keeps significand power)
    (safe : power = 0 ∨ significand ≤ 2 ^ 53 ∧ power.natAbs ≤ 22) :
    Holds x (taken significand power) := by
  obtain ⟨finite', positive, holds⟩ := fields_signed (Binary64.negative x) finite
  rw [← holds, holds_of_taken keeps.fits safe finite' (positive.mpr rfl), holds, keeps.size]
  exact printed.holds

end AggregateStage.Json
