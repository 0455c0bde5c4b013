import AggregateStage.Proofs.Binary64.Nearest
import AggregateStage.WorkItem.Scored

/-! What becomes of a score in a result: it is kept as the average and rounded as the sum. -/
namespace AggregateStage.ScoredItem

open Binary64

/-- The sum is the score rounded to the nearest whole number, halves away from zero, as far as
64 bits reach. So sums are ordered as scores are, and opposite scores have opposite sums. -/
theorem result_rounds_score (item other : ScoredItem) :
    (item.result.key = item.id ∧ item.result.count = 0 ∧ item.result.average = item.score) ∧
    (isNaN item.score → item.result.sum = 0) ∧
    (isInfinite item.score → item.result.sum =
      if negative item.score then Int64.minValue else Int64.maxValue) ∧
    (IsFinite item.score → ∃ n : ℤ, RoundsTo (exact item.score) n ∧
      (∀ m : ℤ, RoundsTo (exact item.score) m → m = n) ∧
      item.result.sum.toInt = max (-2 ^ 63) (min n (2 ^ 63 - 1))) ∧
    (item.score ≤ other.score → item.result.sum ≤ other.result.sum) ∧
    (IsFinite item.score → |exact item.score| < 2 ^ 63 → other.score = -item.score →
      other.result.sum.toInt = -item.result.sum.toInt) := by
  have sum_eq (item : ScoredItem) : item.result.sum = toInt64 item.score := rfl
  refine ⟨⟨rfl, rfl, rfl⟩, toInt64_nan, toInt64_infinite, ?_, toInt64_monotone, ?_⟩
  · intro finite
    have rounds := nearest_rounds item.score
    refine ⟨nearest item.score, rounds, fun m other => other.unique rounds, ?_⟩
    rw [sum_eq, toInt64_finite finite, toInt_clamp]
  · intro finite small opposite
    rw [sum_eq, sum_eq, opposite]
    exact toInt64_neg finite small

theorem exact_half : exact 2.5 = 5 / 2 := by
  have positive : (scale : ℚ) ≠ 0 := by exact_mod_cast scale_pos.ne'
  have doubled : units 2.5 * 2 = 5 * scale := by decide +kernel
  rw [exact, div_eq_div_iff positive two_ne_zero]
  exact_mod_cast doubled

/-- A half goes away from zero on either side, and the two infinities and no number go where
they should. -/
theorem every_kind_of_score_rounds :
    (∃ n : ℤ, RoundsTo (5 / 2) n ∧ (∀ m : ℤ, RoundsTo (5 / 2) m → m = n) ∧
      (ScoredItem.mk "a" 2.5).result.sum.toInt = max (-2 ^ 63) (min n (2 ^ 63 - 1))) ∧
    (ScoredItem.mk "a" 2.5).result.sum = 3 ∧
    (ScoredItem.mk "b" (-2.5)).result.sum.toInt = -3 ∧
    (ScoredItem.mk "b" (-2.5)).result.sum ≤ (ScoredItem.mk "a" 2.5).result.sum ∧
    (ScoredItem.mk "c" (0 / 0)).result.sum = 0 ∧
    (ScoredItem.mk "d" (-1 / 0)).result.sum = Int64.minValue := by
  have three : (ScoredItem.mk "a" 2.5).result.sum = 3 := by decide +kernel
  have small : |exact 2.5| < 2 ^ 63 := by rw [exact_half]; norm_num
  obtain ⟨-, -, -, rounded, -, opposite⟩ :=
    result_rounds_score (ScoredItem.mk "a" 2.5) (ScoredItem.mk "b" (-2.5))
  obtain ⟨-, -, -, -, ordered, -⟩ :=
    result_rounds_score (ScoredItem.mk "b" (-2.5)) (ScoredItem.mk "a" 2.5)
  obtain ⟨-, nan, -⟩ := result_rounds_score (ScoredItem.mk "c" (0 / 0)) (ScoredItem.mk "a" 2.5)
  obtain ⟨-, -, infinite, -⟩ :=
    result_rounds_score (ScoredItem.mk "d" (-1 / 0)) (ScoredItem.mk "a" 2.5)
  refine ⟨exact_half ▸ rounded (by decide), three, ?_, ordered (by decide), nan (by decide), ?_⟩
  · rw [opposite (by decide) small rfl, three]
    rfl
  · rw [infinite (by decide)]
    rfl

end AggregateStage.ScoredItem
