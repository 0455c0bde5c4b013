import Mathlib.Data.List.ReduceOption
import AggregateStage.Proofs.Call.Progress
import AggregateStage.Proofs.Flush

/-! Agreement of the two modes. Both come to the accumulator of all their events joined,
however these were cut into requests, so their results differ in packing and key order only. -/
namespace AggregateStage

namespace Accumulator

theorem counted_flatMap {α : Type} (bring : α → List JudgedEvent) (requests : List α) :
    (requests.flatMap fun request => counted (bring request)) =
      counted (requests.flatMap bring) := by
  simp only [counted, List.filter_flatMap, List.map_flatMap]

/-- The accumulator that some events come to, whatever mode brings them. -/
def total (events : List EnrichedEvent) : Accumulator :=
  (counted (events.map EnrichedEvent.judged)).foldl observe empty

/-- The keyed results do not depend on the order of the keys, up to their own order. -/
theorem keyed_perm (a : Accumulator) (order other : KeyOrder) :
    (a.keyed order).Perm (a.keyed other) :=
  ((order.perm a.entries.toList).trans (other.perm a.entries.toList).symm).map _

end Accumulator

namespace Ingestion

variable {ρ σ : Type} {order : KeyOrder}

/-- Where a mode cuts its requests does not matter to what it accumulates. -/
theorem accumulate_eq_foldl (how : Ingestion ρ σ) (requests : List ρ) :
    how.accumulate requests =
      (Accumulator.counted (requests.flatMap how.events)).foldl Accumulator.observe .empty := by
  rw [← Accumulator.counted_flatMap]
  rfl

theorem weigh_cons (how : Ingestion ρ σ) (request : ρ) (requests : List ρ) :
    how.weigh (request :: requests) = (how.weight request).getD 0 + how.weigh requests := by
  cases counts : how.weight request <;> simp [weigh, counts]

theorem single_accumulate (requests : List SingleRequest) :
    (single.inOrder order).accumulate requests = .total requests.reduceOption := by
  rw [accumulate_eq_foldl, Accumulator.total]
  congr 2
  induction requests with
  | nil => rfl
  | cons request requests ih =>
    cases request with
    | none => simpa [single, inOrder] using ih
    | some event => simpa [single, inOrder] using ih

theorem batch_accumulate (batches : List BatchRequest) :
    (batch.inOrder order).accumulate batches = .total batches.flatten := by
  rw [accumulate_eq_foldl, Accumulator.total]
  congr 2
  induction batches with
  | nil => rfl
  | cons events batches ih => simpa [batch, inOrder] using ih

theorem single_answer (requests : List SingleRequest) :
    (single.inOrder order).answer requests =
      (Accumulator.total requests.reduceOption).flushIn order := by
  simp only [answer, single_accumulate]
  rfl

theorem batch_answer (batches : List BatchRequest) :
    (batch.inOrder order).answer batches =
      [(Accumulator.total batches.flatten).flushIn order] := by
  simp only [answer, batch_accumulate]
  rfl

/-- A request without an event counts, too. -/
theorem single_weigh (requests : List SingleRequest) :
    (single.inOrder order).weigh requests =
      requests.reduceOption.length + requests.count none := by
  induction requests with
  | nil => rfl
  | cons request requests ih =>
    have one : (single.inOrder order).weight request = some 1 := rfl
    rw [weigh_cons, one, ih, Option.getD_some]
    cases request with
    | none =>
      rw [List.reduceOption_cons_of_none, List.count_cons_self]
      omega
    | some event =>
      rw [List.reduceOption_cons_of_some, List.count_cons_of_ne (by simp), List.length_cons]
      omega

/-- An empty batch is skipped and counts as nothing, which is its size. -/
theorem batch_weigh (batches : List BatchRequest) :
    (batch.inOrder order).weigh batches = batches.flatten.length := by
  induction batches with
  | nil => rfl
  | cons events batches ih =>
    rw [weigh_cons, ih, List.flatten_cons, List.length_append]
    cases events <;> simp [batch, inOrder]

end Ingestion

namespace Call

variable {service : String} {buffer : Nat} {order : KeyOrder}

/-- One message for each result. -/
theorem FairRun.single_settles {requests : List SingleRequest}
    (run : FairRun (Ingestion.single.inOrder order) (Call.capacity buffer)
      (start service (requests.map .ok))) :
    ∃ n, ∀ m, n ≤ m → (run.state m).phase = .closed .completed ∧ (run.state m).queue = [] ∧
      (run.state m).taken =
        ((Accumulator.total requests.reduceOption).flushIn order).map .ok ∧
      (run.state m).record.events =
        .ofNat (requests.reduceOption.length + requests.count none) := by
  obtain ⟨n, settled⟩ := run.settles (Nat.le_max_right buffer 1)
  refine ⟨n, fun m later => ?_⟩
  obtain ⟨drained, completed, _⟩ := settled m later
  obtain ⟨closed, taken, events⟩ := completed (failure?_map requests)
  rw [requests_map, Ingestion.single_answer] at taken
  rw [requests_map, Ingestion.single_weigh] at events
  exact ⟨closed, drained, taken, events⟩

/-- One message for all results. -/
theorem FairRun.batch_settles {batches : List BatchRequest}
    (run : FairRun (Ingestion.batch.inOrder order) (Call.capacity buffer)
      (start service (batches.map .ok))) :
    ∃ n, ∀ m, n ≤ m → (run.state m).phase = .closed .completed ∧ (run.state m).queue = [] ∧
      (run.state m).taken = [.ok ((Accumulator.total batches.flatten).flushIn order)] ∧
      (run.state m).record.events = .ofNat batches.flatten.length := by
  obtain ⟨n, settled⟩ := run.settles (Nat.le_max_right buffer 1)
  refine ⟨n, fun m later => ?_⟩
  obtain ⟨drained, completed, _⟩ := settled m later
  obtain ⟨closed, taken, events⟩ := completed (failure?_map batches)
  rw [requests_map, Ingestion.batch_answer] at taken
  rw [requests_map, Ingestion.batch_weigh] at events
  exact ⟨closed, drained, taken, events⟩

/-- Both modes complete and deliver the same results of the same events, however these are
cut into batches and whatever empty requests stand between them. -/
theorem modes_agree (events : List EnrichedEvent) (requests : List SingleRequest)
    (batches : List BatchRequest) (brought : requests.reduceOption = events)
    (cut : batches.flatten = events) {label other : String} {room space : Nat}
    {order arrangement : KeyOrder}
    (single : FairRun (Ingestion.single.inOrder order) (Call.capacity room)
      (start label (requests.map .ok)))
    (batch : FairRun (Ingestion.batch.inOrder arrangement) (Call.capacity space)
      (start other (batches.map .ok))) :
    ∃ (items keys sameKeys : List Result),
      items = (Accumulator.total events).workItems.map ScoredItem.result ∧
      keys = (Accumulator.total events).keyed order ∧
      sameKeys.Perm keys ∧
      ∃ n, ∀ m, n ≤ m →
        ((single.state m).phase = .closed .completed ∧ (single.state m).queue = [] ∧
          (single.state m).taken = (items ++ keys).map .ok ∧
          (single.state m).record.events = .ofNat (events.length + requests.count none)) ∧
        ((batch.state m).phase = .closed .completed ∧ (batch.state m).queue = [] ∧
          (batch.state m).taken = [.ok (items ++ sameKeys)] ∧
          (batch.state m).record.events = .ofNat events.length) := by
  obtain ⟨first, singly⟩ := single.single_settles
  obtain ⟨second, together⟩ := batch.batch_settles
  subst brought
  rw [cut] at together
  refine ⟨_, _, (Accumulator.total requests.reduceOption).keyed arrangement, rfl, rfl,
    Accumulator.keyed_perm _ _ _, max first second, fun m later => ⟨?_, ?_⟩⟩
  · exact singly m (Nat.le_trans (Nat.le_max_left ..) later)
  · exact together m (Nat.le_trans (Nat.le_max_right ..) later)

/-- Two events, with a request without one between them or in a batch between empty ones. -/
theorem modes_agree_around_gap :
    let click : EnrichedEvent := ⟨some ⟨"click", "", 10, 0, 0⟩, [], true⟩
    let view : EnrichedEvent := ⟨some ⟨"view", "", 5, 0, 1⟩, [], true⟩
    let requests : List SingleRequest := [some click, none, some view]
    let batches : List BatchRequest := [[], [click, view], []]
    let single := FairRun.inTurns (Ingestion.single.inOrder .ascending) (Call.capacity 0)
      (start "single" (requests.map .ok))
    let batch := FairRun.inTurns (Ingestion.batch.inOrder ⟨List.reverse, List.reverse_perm⟩)
      (Call.capacity 4) (start "batch" (batches.map .ok))
    requests.reduceOption = [click, view] ∧ batches.flatten = [click, view] ∧
    ∃ n, ∀ m, n ≤ m →
      (single.state m).taken.length = 2 ∧ (single.state m).record.events = 3 ∧
      (batch.state m).taken.length = 1 ∧ (batch.state m).record.events = 2 := by
  intro click view requests batches single batch
  obtain ⟨items, keys, sameKeys, itemsEq, keysEq, _, n, settled⟩ :=
    modes_agree [click, view] requests batches rfl rfl single batch
  refine ⟨rfl, rfl, n, fun m later => ?_⟩
  obtain ⟨⟨_, _, taken, events⟩, _, _, together, counted⟩ := settled m later
  have size : (items ++ keys).length = 2 := by
    subst itemsEq keysEq
    decide +kernel
  refine ⟨?_, events, by rw [together]; rfl, counted⟩
  rw [taken, List.length_map, size]

end Call

end AggregateStage
