import Mathlib.Algebra.BigOperators.Intervals
import Mathlib.Algebra.Order.Field.Rat
import Mathlib.Tactic.Ring
import AggregateStage.WorkItem.Payload

/-! Scores without rounding. The rounds and the pairs of neighbours, taken one after another,
come to a single expression in the eigenvalues. -/
namespace AggregateStage

/-- The operations of a score on rational numbers. -/
def Arithmetic.exact : Arithmetic ℚ where
  zero := 0
  add := (· + ·)
  mul := (· * ·)
  abs := fun x => |x|
  ofNat := Nat.cast
  roundWeight := 1 / 1000
  pairWeight := 1 / 10

namespace Score

variable {eigenvalues : List ℚ}

theorem foldl_add (start : ℚ) (terms : List ℚ) :
    terms.foldl Arithmetic.exact.add start = start + terms.sum := by
  induction terms generalizing start with
  | nil => exact (add_zero start).symm
  | cons term terms ih =>
    rw [List.foldl_cons, ih, List.sum_cons]
    exact add_assoc start term terms.sum

/-- Rounds weigh linearly more, so that together they weigh as a triangular number. -/
theorem sum_rounds (level : ℚ) (count : ℕ) :
    ((List.range count).map (ofRound .exact level)).sum =
      level * (count * (count + 1) / 2) / 1000 := by
  induction count with
  | zero => simp
  | succ count ih =>
    have last : ofRound .exact level count = level * (count + 1) / 1000 := by
      simp only [ofRound, Arithmetic.exact]
      push_cast
      ring
    rw [List.range_succ, List.map_append, List.sum_append, ih, List.map_singleton,
      List.sum_singleton, last]
    push_cast
    ring

/-- The products of eigenvalues with the next one, each pair of places taken once. -/
def pairSum (eigenvalues : List ℚ) : ℚ :=
  ∑ i ∈ Finset.range (eigenvalues.length - 1), |eigenvalues.getD i 0 * eigenvalues.getD (i + 1) 0|

theorem pairSum_cons_cons (first second : ℚ) (rest : List ℚ) :
    pairSum (first :: second :: rest) = |first * second| + pairSum (second :: rest) := by
  have one_more : (first :: second :: rest).length - 1 = (second :: rest).length - 1 + 1 := rfl
  rw [pairSum, one_more, Finset.sum_range_succ', add_comm]
  rfl

/-- The list zipped with its own tail has exactly the neighbours. -/
theorem sum_pairs (eigenvalues : List ℚ) :
    ((neighbours eigenvalues).map (ofPair .exact)).sum = pairSum eigenvalues / 10 := by
  match eigenvalues with
  | [] => simp [neighbours, pairSum]
  | [only] => simp [neighbours, pairSum]
  | first :: second :: rest =>
    have later := sum_pairs (second :: rest)
    have head : neighbours (first :: second :: rest) =
      (first, second) :: neighbours (second :: rest) := rfl
    have product : ofPair .exact (first, second) = |first * second| / 10 := by
      simp only [ofPair, Arithmetic.exact]
      ring
    rw [head, List.map_cons, List.sum_cons, later, product, pairSum_cons_cons]
    ring

theorem compute_eq (score : ℚ) (eigenvalues : List ℚ) :
    compute .exact score eigenvalues =
      (score + eigenvalues.sum) * (1275 / 1000) + 1 / 10 * pairSum eigenvalues := by
  have total : total .exact eigenvalues = eigenvalues.sum :=
    (foldl_add 0 eigenvalues).trans (zero_add _)
  have weight : ((rounds : ℚ) * (rounds + 1) / 2) / 1000 = 1275 / 1000 := by
    norm_num [rounds]
  have start : Arithmetic.exact.zero = 0 := rfl
  have level : Arithmetic.exact.add score eigenvalues.sum = score + eigenvalues.sum := rfl
  simp only [compute, foldl_add, start, zero_add, sum_rounds, sum_pairs, total, level]
  rw [mul_div_assoc, weight]
  ring

/-- Backwards, a place has the neighbour behind it in front of it. -/
theorem pairSum_reverse (eigenvalues : List ℚ) :
    pairSum eigenvalues.reverse = pairSum eigenvalues := by
  rw [pairSum, pairSum, List.length_reverse, ← Finset.sum_range_reflect]
  refine Finset.sum_congr rfl fun i member => ?_
  have inside : i < eigenvalues.length - 1 := Finset.mem_range.mp member
  have first : eigenvalues.length - 1 - (eigenvalues.length - 1 - 1 - i) = i + 1 := by omega
  have second : eigenvalues.length - 1 - (eigenvalues.length - 1 - 1 - i + 1) = i := by omega
  rw [List.getD_eq_getElem?_getD, List.getD_eq_getElem?_getD, List.getD_eq_getElem?_getD,
    List.getD_eq_getElem?_getD, List.getElem?_reverse (by omega), List.getElem?_reverse (by omega),
    first, second, mul_comm]

theorem pairSum_zero_cons (eigenvalues : List ℚ) : pairSum (0 :: eigenvalues) = pairSum eigenvalues := by
  cases eigenvalues with
  | nil => rfl
  | cons first rest => rw [pairSum_cons_cons, zero_mul, abs_zero, zero_add]

theorem pairSum_zeros_append (count : ℕ) (eigenvalues : List ℚ) :
    pairSum (List.replicate count 0 ++ eigenvalues) = pairSum eigenvalues := by
  induction count with
  | zero => rfl
  | succ count ih => rw [List.replicate_succ, List.cons_append, pairSum_zero_cons, ih]

theorem pairSum_append_zeros (count : ℕ) (eigenvalues : List ℚ) :
    pairSum (eigenvalues ++ List.replicate count 0) = pairSum eigenvalues := by
  rw [← pairSum_reverse, List.reverse_append, List.reverse_replicate, pairSum_zeros_append,
    pairSum_reverse]

/-- Without rounding a score is its level at the weight of all rounds and a tenth of the
products of neighbours. So the order of the eigenvalues may be turned round, zeros on either
side make no difference, and it takes two eigenvalues to make a pair. -/
theorem exact_score (score : ℚ) (eigenvalues : List ℚ) :
    compute .exact score eigenvalues = (score + eigenvalues.sum) * (1275 / 1000) +
      1 / 10 * ∑ i ∈ Finset.range (eigenvalues.length - 1),
        |eigenvalues.getD i 0 * eigenvalues.getD (i + 1) 0| ∧
    compute .exact score eigenvalues.reverse = compute .exact score eigenvalues ∧
    (∀ count, compute .exact score (eigenvalues ++ List.replicate count 0) =
      compute .exact score eigenvalues) ∧
    (∀ count, compute .exact score (List.replicate count 0 ++ eigenvalues) =
      compute .exact score eigenvalues) ∧
    compute .exact score [] = score * (1275 / 1000) ∧
    ∀ only, compute .exact score [only] = (score + only) * (1275 / 1000) := by
  refine ⟨compute_eq score eigenvalues, ?_, fun count => ?_, fun count => ?_, ?_, fun only => ?_⟩
  · rw [compute_eq, compute_eq, pairSum_reverse, List.sum_reverse]
  · rw [compute_eq, compute_eq, pairSum_append_zeros, List.sum_append, List.sum_replicate,
      nsmul_zero, add_zero]
  · rw [compute_eq, compute_eq, pairSum_zeros_append, List.sum_append, List.sum_replicate,
      nsmul_zero, zero_add]
  · rw [compute_eq]
    simp [pairSum]
  · rw [compute_eq]
    simp [pairSum]

end Score

end AggregateStage
