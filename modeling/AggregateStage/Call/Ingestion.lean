import AggregateStage.Message

/-! The two modes of a call. They differ in what a request brings, in how it counts, and
in how the closing flush is cut into responses. The order of the keys in that flush is open. -/
namespace AggregateStage

/-- A mode of ingestion, for requests `ρ` and responses `σ`. -/
structure Ingestion (ρ σ : Type) where
  events : ρ → List JudgedEvent
  /-- How many events a request counts as; `none` when it is received but not processed. -/
  weight : ρ → Option Nat
  responses : List Result → List σ
  /-- The order in which the closing flush has its keys. -/
  order : KeyOrder
  /-- What is not processed has nothing to observe. -/
  events_of_skipped : ∀ request, weight request = none → events request = []

namespace Ingestion

/-- One event with each request, one result with each response. A request counts as one
even when it brings no event. -/
def single : Ingestion SingleRequest Result where
  events := fun request => request.toList.map EnrichedEvent.judged
  weight := fun _ => some 1
  responses := fun results => results
  order := .ascending
  events_of_skipped := by simp

/-- Many events with each request, one response with all results even when there are none. -/
def batch : Ingestion BatchRequest BatchResponse where
  events := fun request => request.map EnrichedEvent.judged
  weight := fun request => if request.isEmpty then none else some request.length
  responses := fun results => [results]
  order := .ascending
  events_of_skipped := by
    intro request skipped
    cases request <;> simp_all

/-- The same mode with another order of keys. -/
def inOrder {ρ σ : Type} (how : Ingestion ρ σ) (order : KeyOrder) : Ingestion ρ σ :=
  { how with order := order }

/-- The events of a request that are observed. -/
def observed {ρ σ : Type} (how : Ingestion ρ σ) (request : ρ) : List Event :=
  Accumulator.counted (how.events request)

end Ingestion

end AggregateStage
