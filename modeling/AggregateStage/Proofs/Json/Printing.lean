import AggregateStage.Proofs.Json.Significand

/-! Every finite double can be printed: as its shortest digits, with the place of the last of them
for an exponent. -/
namespace AggregateStage

namespace Decimal

variable {count : ℕ} {c : Char}

theorem ofDigits_digits (count : ℕ) : ofDigits (digits count) = count := by
  have read : Nat.ofDigitChars 10 (digits count) 0 = count := Nat.ofDigitChars_ten_toDigits
  rwa [Nat.ofDigitChars_eq_foldl] at read

theorem isDigit_of_mem_digits (member : c ∈ digits count) : isDigit c = true := by
  have digit : c.isDigit = true := Nat.isDigit_of_mem_toDigits (by norm_num) le_rfl member
  simpa [isDigit, Char.isDigit, Char.le_def] using digit

/-- No zero comes before another digit. -/
theorem digits_head (positive : 0 < count) :
    ∃ first more, digits count = first :: more ∧ first ≠ '0' := by
  induction count using Nat.strongRecOn with
  | ind count ih =>
  by_cases single : count < 10
  · refine ⟨Nat.digitChar count, [], Nat.toDigits_of_lt_base single, ?_⟩
    intro zero
    exact positive.ne' (Nat.digitChar_eq_zero.mp zero)
  · obtain ⟨first, more, leading, nonzero⟩ :=
      ih (count / 10) (Nat.div_lt_self positive (by norm_num)) (by omega)
    refine ⟨first, more ++ [Nat.digitChar (count % 10)], ?_, nonzero⟩
    rw [digits, Nat.toDigits_of_base_le (by norm_num) (by omega), ← digits, leading]
    rfl

end Decimal

namespace Json

open Binary64 Decimal

variable {x : Float}

theorem allDigits_digits (count : ℕ) : AllDigits (digits count) :=
  ⟨Nat.toDigits_ne_nil, fun _ member => isDigit_of_mem_digits member⟩

theorem wholePart_digits (count : ℕ) : WholePart (digits count) := by
  rcases Nat.eq_zero_or_pos count with rfl | positive
  · exact .zero
  · obtain ⟨first, more, same, nonzero⟩ := digits_head positive
    have all := allDigits_digits count
    rw [same] at all ⊢
    exact .digits nonzero all

namespace Numeral

/-- Digits and the place of the last of them, in scientific notation without a point. -/
def scientific (negative : Bool) (count : ℕ) (place : ℤ) : Numeral :=
  ⟨negative, digits count, [], some (decide (place < 0), digits place.natAbs)⟩

variable {negative : Bool} {count : ℕ} {place : ℤ}

theorem scientific_exponentValue : (scientific negative count place).exponentValue = place := by
  simp only [exponentValue, scientific, ofDigits_digits, decide_eq_true_eq]
  split <;> omega

theorem scientific_power : (scientific negative count place).power = place := by
  rw [power, scientific_exponentValue]
  exact sub_zero place

theorem scientific_size : (scientific negative count place).size = count * 10 ^ place := by
  rw [size, scientific_power, number, scientific, List.append_nil, ofDigits_digits]

theorem scientific_written (negative : Bool) (count : ℕ) (place : ℤ) :
    ∃ text, (scientific negative count place).Written text [] := by
  have mark : ('e' : Char) = 'e' ∨ ('e' : Char) = 'E' := .inl rfl
  have exponent : ∃ text, ExponentPart (scientific negative count place).exponent text := by
    unfold scientific
    by_cases down : place < 0
    · rw [decide_eq_true down]
      exact ⟨_, .minus mark (allDigits_digits _)⟩
    · rw [decide_eq_false down]
      exact ⟨_, .unsigned mark (allDigits_digits _)⟩
  obtain ⟨behind, exponent⟩ := exponent
  exact ⟨_, .parts (wholePart_digits count) .absent exponent⟩

end Numeral

/-- Shortest digits of a finite double have a place that is not far out. -/
theorem exists_moderate (finite : IsFinite x) :
    ∃ count place, Shortest x count place ∧ place.natAbs ≤ 616 := by
  obtain ⟨count, place, shortest⟩ := exists_shortest x
  rcases Nat.eq_zero_or_pos (Binary64.significand x) with zero | positive
  · -- A zero is one in any place.
    obtain rfl := shortest.eq_zero zero
    refine ⟨0, 0, ⟨?_, shortest.fewest⟩, Nat.zero_le _⟩
    simpa using shortest.identifies
  · have short := shortest.lt
    have keeps : (Numeral.scientific false count place).Keeps count place := by
      refine ⟨Numeral.scientific_size.symm, ?_, Numeral.scientific_power.le, ?_⟩
      · exact short.trans (by norm_num)
      · exact .inl Numeral.scientific_power.symm
    have bounds := keeps.bounds (Numeral.scientific_size ▸ shortest.identifies) finite positive
    exact ⟨count, place, shortest, by omega⟩

/-- Every finite double is printed by a numeral that can be written. -/
theorem exists_printed (finite : IsFinite x) :
    ∃ (n : Numeral) (text : List Char), n.Prints x ∧ n.Written text [] := by
  obtain ⟨count, place, shortest, moderate⟩ := exists_moderate finite
  obtain ⟨text, written⟩ := Numeral.scientific_written (Binary64.negative x) count place
  refine ⟨_, text, ⟨?_, ?_, rfl, ⟨count, place, shortest, Numeral.scientific_size⟩⟩, written⟩
  · intro digit member
    rw [Numeral.scientific, List.append_nil] at member
    exact isDigit_of_mem_digits member
  · rw [Numeral.scientific_exponentValue]
    omega

end Json

end AggregateStage
