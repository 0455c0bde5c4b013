import AggregateStage.Proofs.Binary64.Fields

/-! Rounding to doubles. An operation on doubles keeps its exact result as a mantissa with two
more bits and then rounds it, and what comes out is the one double whose interval holds the
exact result. -/
namespace AggregateStage.Binary64

open Float.Model (Format totalExponent)
open Float.Model.UnpackedFloat

/-- The exact number that a mantissa and its residual bits stand for. -/
def Represents (em : ExtendedMantissa) (w : ℚ) : Prop :=
  match em.roundBit, em.stickyBit with
  | false, false => w = em.mantissa
  | false, true => (em.mantissa : ℚ) < w ∧ w < em.mantissa + 1 / 2
  | true, false => w = em.mantissa + 1 / 2
  | true, true => (em.mantissa : ℚ) + 1 / 2 < w ∧ w < em.mantissa + 1

/-- A natural number nearest to a rational one, an even one where two are nearest. -/
structure RoundsToEven (w : ℚ) (r : ℕ) : Prop where
  low : (r : ℚ) - 1 / 2 ≤ w
  high : w ≤ r + 1 / 2
  even : w = r - 1 / 2 ∨ w = r + 1 / 2 → r % 2 = 0

variable {em : ExtendedMantissa} {w v : ℚ} {r m : ℕ} {e t : ℤ} {accuracy : Accuracy} {s : Sign}

theorem Represents.floor (represents : Represents em w) :
    (em.mantissa : ℚ) ≤ w ∧ w < em.mantissa + 1 := by
  rcases em with ⟨m, _ | _, _ | _⟩ <;> simp only [Represents] at represents <;>
    constructor <;> linarith

theorem Represents.rounds (represents : Represents em w) : RoundsToEven w em.roundedMantissa := by
  rcases em with ⟨m, _ | _, _ | _⟩ <;> simp only [Represents] at represents
  · have same : ExtendedMantissa.roundedMantissa ⟨m, false, false⟩ = m := rfl
    rw [same]
    exact ⟨by linarith, by linarith, fun tie => by rcases tie with tie | tie <;> linarith⟩
  · have same : ExtendedMantissa.roundedMantissa ⟨m, false, true⟩ = m := rfl
    rw [same]
    exact ⟨by linarith, by linarith, fun tie => by rcases tie with tie | tie <;> linarith⟩
  · -- Half-way between two, the even one is taken.
    have same : ExtendedMantissa.roundedMantissa ⟨m, true, false⟩ = m + m % 2 := rfl
    rw [same]
    rcases Nat.mod_two_eq_zero_or_one m with even | odd
    · rw [even, Nat.add_zero]
      exact ⟨by linarith, by linarith, fun _ => even⟩
    · rw [odd]
      exact ⟨by push_cast; linarith, by push_cast; linarith, fun _ => by omega⟩
  · have same : ExtendedMantissa.roundedMantissa ⟨m, true, true⟩ = m + 1 := rfl
    rw [same]
    refine ⟨by push_cast; linarith, by push_cast; linarith, fun tie => ?_⟩
    push_cast at tie
    rcases tie with tie | tie <;> linarith

/-- Shifting out a bit halves the number. -/
theorem Represents.shiftRightOne (represents : Represents em w) :
    Represents em.shiftRightOne (w / 2) := by
  rcases em with ⟨m, round, sticky⟩
  have split : ((m % 2 : ℕ) : ℚ) + 2 * ((m / 2 : ℕ) : ℚ) = m := by
    exact_mod_cast Nat.mod_add_div m 2
  rcases Nat.mod_two_eq_zero_or_one m with parity | parity <;> rw [parity] at split <;>
    push_cast at split <;> cases round <;> cases sticky <;>
    simp [Represents, ExtendedMantissa.shiftRightOne, parity] at represents ⊢ <;>
    first
    | linarith
    | (constructor <;> linarith)

theorem Represents.shiftRight (represents : Represents em w) (count : ℕ) :
    Represents (em >>> count) (w / 2 ^ count) := by
  change Represents (count.repeat ExtendedMantissa.shiftRightOne em) _
  induction count with
  | zero => simpa [Nat.repeat] using represents
  | succ count ih =>
    rw [Nat.repeat, pow_succ, div_mul_eq_div_div]
    exact ih.shiftRightOne

theorem RoundsToEven.unique {other : ℕ} (first : RoundsToEven w r) (second : RoundsToEven w other) :
    r = other := by
  rcases lt_trichotomy r other with less | same | more
  · have step : (r : ℚ) + 1 ≤ other := by exact_mod_cast less
    have := first.high
    have := second.low
    have := first.even (.inr (by linarith))
    have := second.even (.inl (by linarith))
    have close : (other : ℚ) ≤ r + 1 := by linarith
    have close' : other ≤ r + 1 := by exact_mod_cast close
    omega
  · exact same
  · have step : (other : ℚ) + 1 ≤ r := by exact_mod_cast more
    have := first.low
    have := second.high
    have := first.even (.inl (by linarith))
    have := second.even (.inr (by linarith))
    have close : (r : ℚ) ≤ other + 1 := by linarith
    have close' : r ≤ other + 1 := by exact_mod_cast close
    omega

/-- The exact numbers that are rounded to a mantissa with a power of two: they lie between the
midpoints to the neighbouring doubles, the midpoints included for an even mantissa. Below a
power of two the next double is only half as far away. -/
structure Within (m : ℕ) (e : ℤ) (v : ℚ) : Prop where
  low : (m - (if m = 2 ^ 52 ∧ -1074 < e then 1 / 4 else 1 / 2)) * 2 ^ e ≤ v
  high : v ≤ (m + 1 / 2) * 2 ^ e
  even : v = (m - (if m = 2 ^ 52 ∧ -1074 < e then 1 / 4 else 1 / 2)) * 2 ^ e ∨
    v = (m + 1 / 2) * 2 ^ e → m % 2 = 0

/-- A number in units of the power of two that its rounding has, save for a carry. -/
structure Placed (w : ℚ) (t : ℤ) : Prop where
  nonnegative : 0 ≤ w
  small : w < 2 ^ 53
  low : -1074 ≤ t
  full : -1074 < t → 2 ^ 52 ≤ w

theorem Placed.le (placed : Placed w t) (rounds : RoundsToEven w r) : r ≤ 2 ^ 53 := by
  have below := placed.small
  have near := rounds.low
  have bound : (r : ℚ) < 2 ^ 53 + 1 := by linarith
  have bound' : r < 2 ^ 53 + 1 := by exact_mod_cast bound
  omega

theorem Placed.full_rounded (placed : Placed w t) (rounds : RoundsToEven w r) (normal : -1074 < t) :
    2 ^ 52 ≤ r := by
  have above := placed.full normal
  have near := rounds.high
  have bound : (2 ^ 52 : ℚ) < r + 1 := by linarith
  have bound' : 2 ^ 52 < r + 1 := by exact_mod_cast bound
  omega

/-- What is rounded without a carry lies within the interval of its rounding. -/
theorem Placed.within (placed : Placed w t) (rounds : RoundsToEven w r) :
    Within r t (w * 2 ^ t) := by
  have positive : (0 : ℚ) < 2 ^ t := by positivity
  by_cases edge : r = 2 ^ 52 ∧ -1074 < t
  · -- No number is rounded up to a power of two without a carry.
    have above := placed.full edge.2
    have same : (r : ℚ) = 2 ^ 52 := by exact_mod_cast edge.1
    refine ⟨?_, ?_, fun _ => by omega⟩
    · rw [if_pos edge, mul_le_mul_iff_left₀ positive]
      linarith
    · rw [mul_le_mul_iff_left₀ positive]
      exact rounds.high
  · have cancel {a : ℚ} (same : w * 2 ^ t = a * 2 ^ t) : w = a :=
      mul_right_cancel₀ positive.ne' same
    refine ⟨?_, ?_, ?_⟩
    · rw [if_neg edge, mul_le_mul_iff_left₀ positive]
      exact rounds.low
    · rw [mul_le_mul_iff_left₀ positive]
      exact rounds.high
    · rw [if_neg edge]
      exact fun tie => rounds.even (tie.imp cancel cancel)

/-- What is rounded up to the next power of two lies within the interval of that. -/
theorem Placed.within_carry (placed : Placed w t) (rounds : RoundsToEven w (2 ^ 53)) :
    Within (2 ^ 52) (t + 1) (w * 2 ^ t) := by
  have positive : (0 : ℚ) < 2 ^ t := by positivity
  have low := placed.low
  have near := rounds.low
  have small := placed.small
  push_cast at near
  refine ⟨?_, ?_, fun _ => by norm_num⟩
  · rw [if_pos ⟨rfl, by omega⟩, zpow_add_one₀ two_ne_zero]
    push_cast
    nlinarith
  · rw [zpow_add_one₀ two_ne_zero]
    push_cast
    nlinarith

theorem Within.rounds (within : Within m t (w * 2 ^ t)) : RoundsToEven w m := by
  have positive : (0 : ℚ) < 2 ^ t := by positivity
  obtain ⟨low, high, even⟩ := within
  rw [mul_le_mul_iff_left₀ positive] at low high
  by_cases edge : m = 2 ^ 52 ∧ -1074 < t
  · rw [if_pos edge] at low
    refine ⟨by linarith, high, fun _ => by omega⟩
  · rw [if_neg edge] at low even
    refine ⟨low, high, fun tie => even (tie.imp ?_ ?_)⟩ <;> rintro rfl <;> rfl

/-- A number lies in the interval of no other double than its rounding. -/
theorem Placed.unique (placed : Placed w t) (rounds : RoundsToEven w r) (fits : Canonical m e)
    (within : Within m e (w * 2 ^ t)) :
    (r = m ∧ t = e) ∨ (r = 2 ^ 53 ∧ m = 2 ^ 52 ∧ t + 1 = e) := by
  have positive : (0 : ℚ) < 2 ^ t := by positivity
  have positive' : (0 : ℚ) < 2 ^ e := by positivity
  rcases lt_trichotomy e t with below | rfl | above
  · -- The number is too large for the lower power.
    have full := placed.full (fits.low.trans_lt below)
    have narrow : (m : ℚ) + 1 ≤ 2 ^ 53 := by exact_mod_cast fits.narrow
    have step : (2 : ℚ) ^ (e + 1) ≤ 2 ^ t := by gcongr <;> [norm_num; omega]
    rw [zpow_add_one₀ two_ne_zero] at step
    have large : (2 : ℚ) ^ 53 * 2 ^ e ≤ w * 2 ^ t :=
      calc (2 : ℚ) ^ 53 * 2 ^ e = 2 ^ 52 * (2 ^ e * 2) := by ring
        _ ≤ 2 ^ 52 * 2 ^ t := by gcongr
        _ ≤ w * 2 ^ t := by gcongr
    have high := within.high
    nlinarith
  · exact .inl ⟨rounds.unique within.rounds, rfl⟩
  · have full : 2 ^ 52 ≤ m := fits.full.resolve_right (by have := placed.low; omega)
    have full' : (2 : ℚ) ^ 52 ≤ m := by exact_mod_cast full
    have small : w * 2 ^ t < 2 ^ 53 * 2 ^ t := by gcongr; exact placed.small
    have step : (2 : ℚ) ^ (t + 1) ≤ 2 ^ e := by gcongr <;> [norm_num; omega]
    rw [zpow_add_one₀ two_ne_zero] at step
    have low := within.low
    have least : m = 2 ^ 52 := by
      by_contra more
      rw [if_neg (by tauto)] at low
      have more' : (2 : ℚ) ^ 52 + 1 ≤ m := by exact_mod_cast (by omega : 2 ^ 52 + 1 ≤ m)
      nlinarith
    rw [if_pos ⟨least, by have := placed.low; omega⟩, least] at low
    push_cast at low
    have next : t + 1 = e := by
      by_contra later
      have step : (2 : ℚ) ^ (t + 2) ≤ 2 ^ e := by gcongr <;> [norm_num; omega]
      rw [zpow_add₀ two_ne_zero] at step
      norm_num at step
      nlinarith
    have carried : RoundsToEven w (2 ^ 53) := by
      rw [← next, zpow_add_one₀ two_ne_zero] at low
      have near : (2 : ℚ) ^ 53 - 1 / 2 ≤ w := by
        rw [← mul_le_mul_iff_left₀ positive]
        linarith
      have below := placed.small
      exact ⟨by push_cast; linarith, by push_cast; linarith, fun _ => by norm_num⟩
    exact .inr ⟨rounds.unique carried, least, next⟩

/-- A sign, a mantissa and a power as the operations on doubles have them, where zero has no
power. -/
def unpacked (s : Sign) (m : ℕ) (e : ℤ) : Float.Model.UnpackedFloat :=
  if h : m = 0 then .zero s else .finite s m e (Nat.pos_of_ne_zero h)

/-- The power of two that a rounding has, save for a carry. -/
def target (m : ℕ) (e : ℤ) : ℤ := Format.binary64.targetExponent (totalExponent m e)

theorem target_eq (m : ℕ) (e : ℤ) : target m e = max (m.log2 + 1 + e - 53) (-1074) := rfl

theorem shift_eq (m : ℕ) (e : ℤ) (accuracy : Accuracy) (fine : e ≤ target m e) :
    shiftToTargetExponent Format.binary64 m e accuracy =
      (ExtendedMantissa.ofMantissaAndAccuracy m accuracy >>> (target m e - e).toNat, target m e) := by
  have reached : e + ((target m e - e).toNat : ℤ) = target m e := by omega
  exact Prod.ext rfl reached

theorem shift_zero (em : ExtendedMantissa) : em >>> (0 : ℕ) = em := rfl

/-- A mantissa in the range of doubles is left alone by the second shift. -/
theorem shift_narrow (narrow : r < 2 ^ 53) (low : -1074 ≤ t) :
    shiftToTargetExponent Format.binary64 r t .exact = (⟨r, false, false⟩, t) := by
  have bits : r.log2 ≤ 52 := by
    rcases Nat.eq_zero_or_pos r with rfl | some
    · decide
    · exact Nat.le_of_lt_succ ((Nat.log2_lt some.ne').mpr narrow)
  have none : (Format.binary64.targetExponent (totalExponent r t) - t).toNat = 0 := by
    have := target_eq r t
    unfold target at this
    omega
  unfold shiftToTargetExponent shiftToExponent
  simp only [none, shift_zero, Nat.cast_zero, add_zero]
  rfl

/-- A carry is shifted out. -/
theorem shift_carry (low : -1074 ≤ t) :
    shiftToTargetExponent Format.binary64 (2 ^ 53) t .exact = (⟨2 ^ 52, false, false⟩, t + 1) := by
  have one : (Format.binary64.targetExponent (totalExponent (2 ^ 53) t) - t).toNat = 1 := by
    have := target_eq (2 ^ 53) t
    rw [Nat.log2_two_pow] at this
    unfold target at this
    omega
  unfold shiftToTargetExponent shiftToExponent
  simp only [one, Nat.cast_one]
  rfl

theorem low_target (m : ℕ) (e : ℤ) : -1074 ≤ target m e := le_max_right _ _

theorem roundWithAccuracy_eq (fine : e ≤ target m e)
    (rounded : (ExtendedMantissa.ofMantissaAndAccuracy m accuracy >>>
      (target m e - e).toNat).roundedMantissa = r) (small : r ≤ 2 ^ 53) :
    roundWithAccuracy Format.binary64 s m e accuracy =
      if r < 2 ^ 53 then unpacked s r (target m e) else unpacked s (2 ^ 52) (target m e + 1) := by
  have twice : roundWithAccuracy Format.binary64 s m e accuracy =
      unpacked s (shiftToTargetExponent Format.binary64 r (target m e) .exact).1.mantissa
        (shiftToTargetExponent Format.binary64 r (target m e) .exact).2 := by
    unfold roundWithAccuracy
    rw [shift_eq m e accuracy fine]
    dsimp only
    rw [rounded]
    rfl
  rw [twice]
  by_cases narrow : r < 2 ^ 53
  · rw [if_pos narrow, shift_narrow narrow (low_target m e)]
  · have carry : r = 2 ^ 53 := by omega
    rw [if_neg narrow, carry, shift_carry (low_target m e)]

/-- An exact result lies where its mantissa and power say. -/
theorem placed_of_represents
    (represents : Represents (ExtendedMantissa.ofMantissaAndAccuracy m accuracy) (v / 2 ^ e))
    (fine : e ≤ target m e) : Placed (v / 2 ^ target m e) (target m e) := by
  have positive : (0 : ℚ) < 2 ^ e := by positivity
  have positive' : (0 : ℚ) < 2 ^ target m e := by positivity
  have same : (ExtendedMantissa.ofMantissaAndAccuracy m accuracy).mantissa = m := by
    rcases accuracy with _ | _ | _ | _ <;> rfl
  obtain ⟨above, below⟩ := represents.floor
  rw [same, le_div_iff₀ positive] at above
  rw [same, div_lt_iff₀ positive] at below
  refine ⟨div_nonneg ((by positivity : (0 : ℚ) ≤ m * 2 ^ e).trans above) positive'.le, ?_,
    low_target m e, fun normal => ?_⟩
  · have bits : (m : ℚ) + 1 ≤ 2 ^ (m.log2 + 1) := by exact_mod_cast Nat.lt_log2_self
    rw [div_lt_iff₀ positive']
    calc v < (m + 1) * 2 ^ e := below
      _ ≤ 2 ^ (m.log2 + 1) * 2 ^ e := by gcongr
      _ = 2 ^ ((m.log2 + 1 : ℕ) + e : ℤ) := by rw [zpow_add₀ two_ne_zero, zpow_natCast]
      _ ≤ 2 ^ ((53 : ℕ) + target m e : ℤ) :=
        zpow_le_zpow_right₀ one_le_two (by rw [target_eq]; omega)
      _ = 2 ^ 53 * 2 ^ target m e := by rw [zpow_add₀ two_ne_zero, zpow_natCast]
  · rw [target_eq] at normal fine
    have reached : target m e = m.log2 + 1 + e - 53 := by rw [target_eq]; omega
    have some : m ≠ 0 := by
      rintro rfl
      rw [Nat.log2_zero] at normal fine
      omega
    have bits : (2 : ℚ) ^ m.log2 ≤ m := by exact_mod_cast Nat.log2_self_le some
    rw [le_div_iff₀ positive', reached]
    calc (2 : ℚ) ^ 52 * 2 ^ (m.log2 + 1 + e - 53 : ℤ)
        = 2 ^ m.log2 * 2 ^ e := by
          rw [← zpow_natCast, ← zpow_natCast, ← zpow_add₀ two_ne_zero, ← zpow_add₀ two_ne_zero]
          congr 1
          push_cast
          ring
      _ ≤ m * 2 ^ e := by gcongr
      _ ≤ v := above

theorem unpacked_inj {s' : Sign} {m' : ℕ} {e' : ℤ} (same : unpacked s m e = unpacked s' m' e') :
    s = s' ∧ m = m' ∧ (m = 0 ∨ e = e') := by
  unfold unpacked at same
  split at same <;> split at same
  · injection same with signs
    exact ⟨signs, by omega, .inl ‹_›⟩
  · contradiction
  · contradiction
  · injection same with signs mantissas powers
    exact ⟨signs, mantissas, .inr powers⟩

theorem Canonical.unpacked_inj {s' : Sign} {m' : ℕ} {e' : ℤ} (fits : Canonical m e)
    (fits' : Canonical m' e') (same : unpacked s m e = unpacked s' m' e') :
    s = s' ∧ m = m' ∧ e = e' := by
  obtain ⟨signs, rfl, zero | powers⟩ := Binary64.unpacked_inj same
  · have bottom := fits.full
    have bottom' := fits'.full
    exact ⟨signs, rfl, by omega⟩
  · exact ⟨signs, rfl, powers⟩

theorem Placed.canonical (placed : Placed w t) (rounds : RoundsToEven w r) (narrow : r < 2 ^ 53) :
    Canonical r t where
  narrow := narrow
  low := placed.low
  full := by
    rcases placed.low.eq_or_lt with bottom | normal
    · exact .inr bottom.symm
    · exact .inl (placed.full_rounded rounds normal)

theorem canonical_carry (low : -1074 ≤ t) : Canonical (2 ^ 52) (t + 1) :=
  ⟨by norm_num, by omega, .inl le_rfl⟩

/-- The exact result behind a rounding, in units of the power of two that the rounding has. -/
theorem shifted_represents
    (represents : Represents (ExtendedMantissa.ofMantissaAndAccuracy m accuracy) (v / 2 ^ e))
    (fine : e ≤ target m e) : Represents (ExtendedMantissa.ofMantissaAndAccuracy m accuracy >>>
      (target m e - e).toNat) (v / 2 ^ target m e) := by
  have whole : v / 2 ^ e / 2 ^ (target m e - e).toNat = v / 2 ^ target m e := by
    rw [div_div, ← zpow_natCast, ← zpow_add₀ two_ne_zero, Int.toNat_of_nonneg (by omega)]
    congr 2
    omega
  exact whole ▸ represents.shiftRight _

/-- Rounding gives a mantissa and a power that a double can have, whose interval holds the exact
result. -/
theorem round_spec
    (represents : Represents (ExtendedMantissa.ofMantissaAndAccuracy m accuracy) (v / 2 ^ e))
    (fine : e ≤ target m e) : ∃ m' e', Canonical m' e' ∧ Within m' e' v ∧
      ∀ s, roundWithAccuracy Format.binary64 s m e accuracy = unpacked s m' e' := by
  have placed := placed_of_represents represents fine
  have rounds := (shifted_represents represents fine).rounds
  have small := placed.le rounds
  have positive : (0 : ℚ) < 2 ^ target m e := by positivity
  have scaled : v / 2 ^ target m e * 2 ^ target m e = v := div_mul_cancel₀ v positive.ne'
  have result (s : Sign) := roundWithAccuracy_eq (s := s) fine rfl small
  generalize (ExtendedMantissa.ofMantissaAndAccuracy m accuracy >>>
    (target m e - e).toNat).roundedMantissa = r at rounds small result
  by_cases narrow : r < 2 ^ 53
  · refine ⟨r, target m e, placed.canonical rounds narrow, scaled ▸ placed.within rounds, ?_⟩
    exact fun s => (result s).trans (if_pos narrow)
  · obtain rfl : r = 2 ^ 53 := by omega
    refine ⟨2 ^ 52, target m e + 1, canonical_carry placed.low,
      scaled ▸ placed.within_carry rounds, ?_⟩
    exact fun s => (result s).trans (if_neg narrow)

/-- The interval of one double only holds an exact result. -/
theorem within_unique {m' : ℕ} {e' : ℤ}
    (represents : Represents (ExtendedMantissa.ofMantissaAndAccuracy m accuracy) (v / 2 ^ e))
    (fine : e ≤ target m e) (fits : Canonical m' e') (within : Within m' e' v) :
    roundWithAccuracy Format.binary64 s m e accuracy = unpacked s m' e' := by
  have placed := placed_of_represents represents fine
  have rounds := (shifted_represents represents fine).rounds
  have positive : (0 : ℚ) < 2 ^ target m e := by positivity
  have scaled : v / 2 ^ target m e * 2 ^ target m e = v := div_mul_cancel₀ v positive.ne'
  rw [roundWithAccuracy_eq fine rfl (placed.le rounds)]
  rw [← scaled] at within
  rcases placed.unique rounds fits within with ⟨same, power⟩ | ⟨carry, rfl, power⟩
  · rw [same, if_pos fits.narrow, power]
  · rw [carry, if_neg (by norm_num), power]

variable {x y z : Float}

theorem unpack_eq (finite : IsFinite x) :
    x.toModel.unpack = unpacked (sign x) (significand x) (power x) := by
  unfold unpacked
  split
  · exact unpack_zero finite ‹_›
  · exact unpack_nonzero finite _

/-- A power that is too high makes an infinity. -/
theorem unpack_pack_overflow (s : Sign) {m : ℕ} {e : ℤ} (some : 0 < m) (high : 971 < e) :
    (Float.Model.pack (.finite s m e some)).unpack = .infinity s := by
  let x : Float := ⟨Float.Model.pack (.finite s m e some)⟩
  have packed : x.toModel.toBits.toBitVec = if 2 ^ 11 ≤ (e + 1023 + 52).toNat + 1 then
      packedInfinity Format.binary64 s else _ := rfl
  rw [if_pos (by omega)] at packed
  obtain ⟨same, exponent, fraction⟩ := fields_of_components packed
  have infinite : isInfinite x := by simp [isInfinite, exponent, fraction]
  show x.toModel.unpack = _
  rw [unpack_infinite infinite, same]

theorem pack_unpack (x : Float) : Float.ofModel (Float.Model.pack x.toModel.unpack) = x :=
  Float.ofBits_toBits x

theorem neg_involutive (x : Float) : -(-x) = x := by
  have twice : (-(-x)).toModel.unpack = x.toModel.unpack := by
    rw [unpack_neg, unpack_neg]
    cases x.toModel.unpack with
    | notANumber => rfl
    | zero s | infinity s | finite s => cases s <;> rfl
  rw [← pack_unpack (-(-x)), twice, pack_unpack]

/-- A canonical mantissa and power make the finite double that has them, and no other. -/
theorem pack_unpacked_iff (fits : Canonical m e) (finite : IsFinite x) :
    Float.ofModel (Float.Model.pack (unpacked s m e)) = x ↔
      s = sign x ∧ m = significand x ∧ e = power x := by
  constructor
  · rintro rfl
    have read : (Float.Model.pack (unpacked s m e)).unpack = unpacked _ _ _ := unpack_eq finite
    by_cases zero : m = 0
    · have kept : (Float.Model.pack (unpacked s m e)).unpack = unpacked s m e := by
        unfold unpacked
        rw [dif_pos zero]
        exact unpack_packedZero
      exact fits.unpacked_inj (canonical _) (kept.symm.trans read)
    · have some := Nat.pos_of_ne_zero zero
      have same : unpacked s m e = .finite s m e some := dif_neg zero
      rcases le_or_gt e 971 with top | high
      · have kept := unpack_pack s some fits top
        rw [← same] at kept
        exact fits.unpacked_inj (canonical _) (kept.symm.trans read)
      · have infinite := unpack_pack_overflow s some high
        rw [← same] at infinite
        have never := (fields_of_infinity (x := ⟨Float.Model.pack (unpacked s m e)⟩) infinite).1
        simp [isInfinite, show exponent _ ≠ 2047 from finite] at never
  · rintro ⟨rfl, rfl, rfl⟩
    rw [← unpack_eq finite]
    exact pack_unpack x

/-- The exact numbers that are rounded to a double. -/
def Holds (x : Float) (v : ℚ) : Prop := Within (significand x) (power x) v

theorem pack_round_iff
    (represents : Represents (ExtendedMantissa.ofMantissaAndAccuracy m accuracy) (v / 2 ^ e))
    (fine : e ≤ target m e) (finite : IsFinite x) :
    Float.ofModel (Float.Model.pack (roundWithAccuracy Format.binary64 s m e accuracy)) = x ↔
      s = sign x ∧ Holds x v := by
  obtain ⟨m', e', fits, within, result⟩ := round_spec represents fine
  rw [result s, pack_unpacked_iff fits finite]
  constructor
  · rintro ⟨rfl, rfl, rfl⟩
    exact ⟨rfl, within⟩
  · rintro ⟨rfl, holds⟩
    have same := within_unique (s := sign x) represents fine (canonical x) holds
    exact fits.unpacked_inj (canonical x) ((result (sign x)).symm.trans same)

end AggregateStage.Binary64
