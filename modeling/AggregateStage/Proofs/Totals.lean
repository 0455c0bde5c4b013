import Mathlib.Algebra.Ring.Int.Defs
import Mathlib.Algebra.Ring.Nat
import Mathlib.Data.List.Basic
import AggregateStage.Accumulator

/-! What an accumulator holds after any mix of single events and batches: for each key
the wrapped count and sum of its values, and the decoded work items in order. -/
namespace AggregateStage

/-- The entry of a key that has observed the given values. -/
def Entry.ofValues (values : List Int64) : Entry :=
  ⟨.ofNat values.length, .ofInt (values.map Int64.toInt).sum⟩

theorem Entry.ofValues_append (values : List Int64) (value : Int64) :
    ofValues (values ++ [value]) = (ofValues values).observe value := by
  simp [ofValues, observe]

theorem Entry.ofValues_nil : ofValues [] = empty := rfl

/-- Both totals are exact modulo 2^64, however often they wrapped in between. -/
theorem Entry.ofValues_toInt (values : List Int64) :
    (ofValues values).count.toInt = (values.length : Int).bmod (2 ^ 64) ∧
    (ofValues values).sum.toInt = (values.map Int64.toInt).sum.bmod (2 ^ 64) :=
  ⟨Int64.toInt_ofNat', Int64.toInt_ofInt⟩

namespace Accumulator

/-- One use of an accumulator by its caller. -/
inductive Use where
  | single (event : Event)
  | batch (events : List JudgedEvent)

def Use.apply (a : Accumulator) : Use → Accumulator
  | .single event => a.observe event
  | .batch events => (a.observeBatch events).1

/-- The events that a use brings to observation; of a batch only those that passed. -/
def Use.observed : Use → List Event
  | .single event => [event]
  | .batch events => (events.filter fun judged => judged.passed).map fun judged => judged.event

def run (uses : List Use) : Accumulator := uses.foldl Use.apply empty

def observed (uses : List Use) : List Event := uses.flatMap Use.observed

/-- What the events of one type add, in order. -/
def valuesOf (key : String) (events : List Event) : List Int64 :=
  (events.filter fun event => event.type == key).map Event.value

/-- The work items that can be read, in order, with their scores. -/
def itemsOf (events : List Event) : List ScoredItem :=
  (events.filter fun event => event.type == workItemType).filterMap fun event =>
    (Payload.decode event.payload).toOption.map fun payload => ⟨payload.id, payload.finalScore⟩

def tally? (key : String) (events : List Event) : Option Entry :=
  if key ≠ workItemType ∧ valuesOf key events ≠ [] then some (.ofValues (valuesOf key events))
  else none

/-- The accumulator holds what the events amount to. -/
structure Tallies (events : List Event) (a : Accumulator) : Prop where
  entry : ∀ key, a.get? key = tally? key events
  items : a.workItems = itemsOf events

theorem tallies_empty : Tallies [] empty where
  entry := by simp [tally?, valuesOf]
  items := rfl

theorem itemsOf_append (events later : List Event) :
    itemsOf (events ++ later) = itemsOf events ++ itemsOf later := by
  simp [itemsOf]

/-- An entry that is missing counts as one that has observed nothing. -/
theorem tally?_getD (key : String) (events : List Event) (plain : key ≠ workItemType) :
    (tally? key events).getD .empty = .ofValues (valuesOf key events) := by
  by_cases none : valuesOf key events = []
  · simp [tally?, none, Entry.ofValues_nil]
  · simp [tally?, none, plain]

theorem tallies_keyed (events : List Event) (a : Accumulator) (event : Event)
    (plain : event.type ≠ workItemType) (valid : Tallies events a) :
    Tallies (events ++ [event]) (a.add event.type event.value) where
  entry := by
    intro key
    rw [get?_add, valid.entry, valid.entry]
    by_cases same : key = event.type
    · subst key
      rw [if_pos rfl, tally?_getD _ _ plain, ← Entry.ofValues_append]
      simp [tally?, plain, valuesOf]
    · simp [tally?, same, Ne.symm same, valuesOf]
  items := by
    rw [workItems_add, valid.items, itemsOf_append]
    simp [itemsOf, plain]

/-- A work item leaves every key as it is; it is appended if it can be read. -/
theorem tallies_workItem (events : List Event) (a : Accumulator) (event : Event)
    (special : event.type = workItemType) (valid : Tallies events a) :
    Tallies (events ++ [event]) { a with workItems := a.workItems ++ itemsOf [event] } where
  entry := by
    intro key
    change a.get? key = _
    rw [valid.entry]
    by_cases same : key = workItemType
    · simp [tally?, same]
    · simp [tally?, valuesOf, special, Ne.symm same]
  items := by rw [itemsOf_append, ← valid.items]

theorem observe_keyed (a : Accumulator) (event : Event) (plain : event.type ≠ workItemType) :
    a.observe event = a.add event.type event.value := by
  simp [observe, Event.observation, Event.isWorkItem, plain, absorb]

theorem observe_workItem (a : Accumulator) (event : Event) (special : event.type = workItemType) :
    a.observe event = { a with workItems := a.workItems ++ itemsOf [event] } := by
  cases decoded : Payload.decode event.payload with
  | ok payload =>
    simp [observe, Event.observation, Event.isWorkItem, special, ScoredItem.decode, decoded,
      Except.map, Payload.scored, absorb, itemsOf, Except.toOption]
  | error error =>
    simp [observe, Event.observation, Event.isWorkItem, special, ScoredItem.decode, decoded,
      Except.map, absorb, itemsOf, Except.toOption]

theorem tallies_observe (events : List Event) (a : Accumulator) (event : Event)
    (valid : Tallies events a) : Tallies (events ++ [event]) (a.observe event) := by
  by_cases special : event.type = workItemType
  · rw [observe_workItem a event special]
    exact tallies_workItem events a event special valid
  · rw [observe_keyed a event special]
    exact tallies_keyed events a event special valid

theorem tallies_foldl (events later : List Event) (a : Accumulator) (valid : Tallies events a) :
    Tallies (events ++ later) (later.foldl observe a) := by
  induction later generalizing events a with
  | nil => simpa using valid
  | cons event later ih =>
    have next := ih (events ++ [event]) _ (tallies_observe events a event valid)
    simpa using next

theorem apply_eq_foldl (a : Accumulator) (use : Use) :
    use.apply a = use.observed.foldl observe a := by
  cases use <;> rfl

theorem run_eq_foldl (uses : List Use) : run uses = (observed uses).foldl observe empty := by
  unfold run observed
  generalize empty = a
  induction uses generalizing a with
  | nil => rfl
  | cons use uses ih =>
    simp only [List.foldl_cons, List.flatMap_cons, List.foldl_append]
    rw [ih, apply_eq_foldl]

theorem tallies_run (uses : List Use) : Tallies (observed uses) (run uses) := by
  rw [run_eq_foldl]
  exact tallies_foldl [] (observed uses) empty tallies_empty

theorem valuesOf_ne_nil (key : String) (events : List Event) :
    valuesOf key events ≠ [] ↔ ∃ event ∈ events, event.type = key := by
  simp [valuesOf, List.filter_eq_nil_iff]

/-- A key is there exactly when a plain event of that type was observed. -/
theorem Tallies.isSome_iff {events : List Event} {a : Accumulator} (valid : Tallies events a)
    (key : String) :
    (a.get? key).isSome ↔ key ≠ workItemType ∧ ∃ event ∈ events, event.type = key := by
  rw [valid.entry, ← valuesOf_ne_nil]
  unfold tally?
  split <;> simp_all

theorem Tallies.eq_ofValues {events : List Event} {a : Accumulator} (valid : Tallies events a)
    {key : String} {entry : Entry} (found : a.get? key = some entry) :
    valuesOf key events ≠ [] ∧ entry = .ofValues (valuesOf key events) := by
  rw [valid.entry] at found
  unfold tally? at found
  split at found
  · rename_i present
    exact ⟨present.2, (Option.some.inj found).symm⟩
  · contradiction

/-- The accumulator is the fold of what was observed. A key depends on the values of its own
type and on nothing else, the work items on the payloads that can be read; rejected events
are not among the observed ones and count only in the size that a batch answers with. -/
theorem totals_of_run (uses : List Use) :
    (∀ key, ((run uses).get? key).isSome ↔
      key ≠ workItemType ∧ ∃ event ∈ observed uses, event.type = key) ∧
    (∀ key entry, (run uses).get? key = some entry →
      entry.count.toInt = ((valuesOf key (observed uses)).length : Int).bmod (2 ^ 64) ∧
      entry.sum.toInt =
        ((valuesOf key (observed uses)).map Int64.toInt).sum.bmod (2 ^ 64)) ∧
    (run uses).workItems = itemsOf (observed uses) ∧
    (∀ other key, key ≠ workItemType →
      valuesOf key (observed uses) = valuesOf key (observed other) →
      (run uses).get? key = (run other).get? key) ∧
    (∀ other, itemsOf (observed uses) = itemsOf (observed other) →
      (run uses).workItems = (run other).workItems) ∧
    (∀ (a : Accumulator) (batch : List JudgedEvent), (a.observeBatch batch).2 = batch.length) := by
  have valid := tallies_run uses
  refine ⟨valid.isSome_iff, ?_, valid.items, ?_, ?_, fun _ _ => rfl⟩
  · intro key entry found
    obtain ⟨_, rfl⟩ := valid.eq_ofValues found
    exact Entry.ofValues_toInt _
  · intro other key _ same
    rw [valid.entry, (tallies_run other).entry, tally?, tally?, same]
  · intro other same
    rw [valid.items, (tallies_run other).items, same]

end Accumulator

end AggregateStage
