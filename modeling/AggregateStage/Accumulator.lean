import Std.Data.TreeMap
import AggregateStage.Event

/-! The state of one call: a running count and sum for every key, and the scored work
items in the order of their arrival. Both totals of a key wrap within 64 bits. -/
namespace AggregateStage

structure Entry where
  count : Int64
  sum : Int64
  deriving DecidableEq, Repr

namespace Entry

def empty : Entry := ⟨0, 0⟩

def observe (entry : Entry) (value : Int64) : Entry := ⟨entry.count + 1, entry.sum + value⟩

/-- The mean, or zero before the first observation. -/
def average (entry : Entry) : Float :=
  if 0 < entry.count then Binary64.ofInt64 entry.sum / Binary64.ofInt64 entry.count else 0

def result (key : String) (entry : Entry) : Result := ⟨key, entry.count, entry.sum, entry.average⟩

end Entry

structure Accumulator where
  entries : Std.TreeMap String Entry
  workItems : List ScoredItem

/-- An order in which the keys of a flush may come; none is promised. -/
structure KeyOrder where
  arrange : List (String × Entry) → List (String × Entry)
  perm : ∀ entries, (arrange entries).Perm entries

/-- The order in which the keys are kept. -/
def KeyOrder.ascending : KeyOrder := ⟨id, fun entries => .refl entries⟩

namespace Accumulator

def empty : Accumulator := ⟨∅, []⟩

def get? (a : Accumulator) (key : String) : Option Entry := a.entries[key]?

def add (a : Accumulator) (key : String) (value : Int64) : Accumulator where
  entries := a.entries.insert key (((a.get? key).getD .empty).observe value)
  workItems := a.workItems

def absorb (a : Accumulator) : Observation → Accumulator
  | .keyed key value => a.add key value
  | .scored item => { entries := a.entries, workItems := a.workItems ++ [item] }
  | .dropped _ => a

def observe (a : Accumulator) (event : Event) : Accumulator := a.absorb event.observation

/-- The events of a batch that the rules let pass. -/
def counted (events : List JudgedEvent) : List Event :=
  (events.filter JudgedEvent.passed).map JudgedEvent.event

/-- Observes what passed; the second part is the size of the whole batch. -/
def observeBatch (a : Accumulator) (events : List JudgedEvent) : Accumulator × Nat :=
  ((counted events).foldl observe a, events.length)

/-- How many results a flush has. -/
def size (a : Accumulator) : Nat := a.entries.size + a.workItems.length

def isEmpty (a : Accumulator) : Bool := a.size == 0

/-- One result for each key. -/
def keyed (order : KeyOrder) (a : Accumulator) : List Result :=
  (order.arrange a.entries.toList).map fun (key, entry) => entry.result key

/-- The work items in their order, then the keys in an order of their own. -/
def flushIn (order : KeyOrder) (a : Accumulator) : List Result :=
  a.workItems.map ScoredItem.result ++ a.keyed order

def flush (a : Accumulator) : List Result := a.flushIn .ascending

@[simp] theorem get?_empty (key : String) : empty.get? key = none := by simp [get?, empty]

theorem get?_add (a : Accumulator) (key other : String) (value : Int64) :
    (a.add key value).get? other =
      if other = key then some (((a.get? key).getD .empty).observe value)
      else a.get? other := by
  simp only [add, get?, Std.TreeMap.getElem?_insert, Std.compare_eq_iff_eq, eq_comm (a := key)]

@[simp] theorem workItems_add (a : Accumulator) (key : String) (value : Int64) :
    (a.add key value).workItems = a.workItems := rfl

/-- What a flush runs over is what a look-up finds. -/
theorem mem_entries (a : Accumulator) (key : String) (entry : Entry) :
    (key, entry) ∈ a.entries.toList ↔ a.get? key = some entry :=
  Std.TreeMap.mem_toList_iff_getElem?_eq_some

theorem keys_nodup (a : Accumulator) : (a.entries.toList.map Prod.fst).Nodup := by
  rw [List.Nodup, List.pairwise_map]
  refine Std.TreeMap.distinct_keys_toList.imp ?_
  intro first second apart same
  exact apart (Std.compare_eq_iff_eq.mpr same)

end Accumulator

end AggregateStage
