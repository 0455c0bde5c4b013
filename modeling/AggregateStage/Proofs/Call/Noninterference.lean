import AggregateStage.Proofs.Call.Agreement
import AggregateStage.Proofs.Call.Delivery
import AggregateStage.Proofs.Call.Lockstep
import AggregateStage.Proofs.Call.Timing

/-! What of an event matters to a call: whether it counts, and if so its type and the one
field that its type is about. Two calls whose requests agree in that show their clients the
same, whatever else the requests hold. -/
namespace AggregateStage

/-- The event that an annotation has counted, if there is one and it passed. -/
def EnrichedEvent.counted? (e : EnrichedEvent) : Option ParsedEvent :=
  if e.passed then e.event else none

/-- Two events of one type that agree in the payload if they are work items, and in the value
if they are not. -/
def ParsedEvent.Alike (e e' : ParsedEvent) : Prop :=
  e'.type = e.type ∧ if e.type = workItemType then e'.user = e.user else e'.value = e.value

/-- Two annotated events of which neither counts, or both do and are alike. -/
def EnrichedEvent.Alike (e e' : EnrichedEvent) : Prop :=
  Option.Rel ParsedEvent.Alike e.counted? e'.counted?

/-- The same for requests that bring an event or none. -/
def SingleRequest.Alike (request request' : SingleRequest) : Prop :=
  Option.Rel ParsedEvent.Alike (request.bind EnrichedEvent.counted?)
    (request'.bind EnrichedEvent.counted?)

/-- Two batches of one size, alike event by event. -/
def BatchRequest.Alike (request request' : BatchRequest) : Prop :=
  List.Forall₂ EnrichedEvent.Alike request request'

theorem ParsedEvent.Alike.observation {e e' : ParsedEvent} (alike : e.Alike e') :
    e'.counted.observation = e.counted.observation := by
  obtain ⟨type, field⟩ := alike
  by_cases item : e.type = workItemType
  · rw [if_pos item] at field
    simp [Event.observation, Event.isWorkItem, ParsedEvent.counted, type, item, field]
  · rw [if_neg item] at field
    simp [Event.observation, Event.isWorkItem, ParsedEvent.counted, type, item, field]

/-- What is observed of annotated events are those of them that count. -/
theorem EnrichedEvent.counted_judged (events : List EnrichedEvent) :
    Accumulator.counted (events.map EnrichedEvent.judged) =
      (events.filterMap EnrichedEvent.counted?).map ParsedEvent.counted := by
  induction events with
  | nil => rfl
  | cons e events ih =>
    simp only [Accumulator.counted] at ih
    cases passed : e.passed <;> cases event : e.event <;>
      simp [Accumulator.counted, EnrichedEvent.judged, EnrichedEvent.counted?, passed, event, ih]

theorem ParsedEvent.observations_of_alike {events events' : List ParsedEvent}
    (alike : List.Forall₂ ParsedEvent.Alike events events') :
    (events'.map ParsedEvent.counted).map Event.observation =
      (events.map ParsedEvent.counted).map Event.observation := by
  induction alike with
  | nil => rfl
  | cons first _ ih => simp only [List.map_cons, first.observation, ih]

theorem ParsedEvent.alike_toList {event event' : Option ParsedEvent}
    (alike : Option.Rel ParsedEvent.Alike event event') :
    List.Forall₂ ParsedEvent.Alike event.toList event'.toList := by
  cases alike with
  | none => exact .nil
  | some same => exact .cons same .nil

/-- The events that count are alike one by one. -/
theorem BatchRequest.Alike.counted {request request' : BatchRequest}
    (alike : BatchRequest.Alike request request') :
    List.Forall₂ ParsedEvent.Alike (request.filterMap EnrichedEvent.counted?)
      (request'.filterMap EnrichedEvent.counted?) := by
  induction alike with
  | nil => exact .nil
  | @cons e e' _ _ same _ ih =>
    have first : Option.Rel ParsedEvent.Alike e.counted? e'.counted? := same
    generalize here : e.counted? = event, here' : e'.counted? = event' at first
    cases first with
    | none => simpa [List.filterMap_cons, here, here'] using ih
    | some same => simpa [List.filterMap_cons, here, here'] using ⟨same, ih⟩

namespace Ingestion

variable {ρ σ : Type} {how : Ingestion ρ σ}

theorem single_alike (request request' : SingleRequest)
    (alike : SingleRequest.Alike request request') : single.Alike request request' where
  weight := rfl
  observations := by
    have observed (request : SingleRequest) : single.observed request =
        (request.bind EnrichedEvent.counted?).toList.map ParsedEvent.counted := by
      rw [observed, single, EnrichedEvent.counted_judged]
      cases request with
      | none => rfl
      | some e => cases counts : e.counted? <;> simp [counts]
    rw [observed, observed]
    exact ParsedEvent.observations_of_alike (ParsedEvent.alike_toList alike)

theorem accumulate_alike (how : Ingestion ρ σ) {requests requests' : List ρ}
    (alike : List.Forall₂ how.Alike requests requests') :
    how.accumulate requests' = how.accumulate requests := by
  have folded (a : Accumulator) : (requests'.flatMap how.observed).foldl Accumulator.observe a =
      (requests.flatMap how.observed).foldl Accumulator.observe a := by
    induction alike generalizing a with
    | nil => rfl
    | cons first _ ih => simp only [List.flatMap_cons, List.foldl_append, first.foldl, ih]
  exact folded .empty

theorem weigh_alike (how : Ingestion ρ σ) {requests requests' : List ρ}
    (alike : List.Forall₂ how.Alike requests requests') :
    how.weigh requests' = how.weigh requests := by
  induction alike with
  | nil => rfl
  | cons first _ ih => rw [weigh_cons, weigh_cons, first.weight, ih]

/-- Requests that are alike come to the same work items and the same keys; only the order of
the keys is a matter of its own. -/
theorem answer_alike (how : Ingestion ρ σ) {requests requests' : List ρ}
    (alike : List.Forall₂ how.Alike requests requests') (order order' : KeyOrder) :
    ∃ items keys keys', keys'.Perm keys ∧ (order' = order → keys' = keys) ∧
      (how.inOrder order).answer requests = how.responses (items ++ keys) ∧
      (how.inOrder order').answer requests' = how.responses (items ++ keys') := by
  have same : (how.inOrder order').accumulate requests' = how.accumulate requests := by
    rw [← how.accumulate_alike alike]
    rfl
  refine ⟨_, _, (how.accumulate requests).keyed order', Accumulator.keyed_perm _ order' order, ?_,
    rfl, ?_⟩
  · rintro rfl
    rfl
  · rw [answer, same]
    rfl

theorem batch_alike (request request' : BatchRequest)
    (alike : BatchRequest.Alike request request') : batch.Alike request request' where
  weight := by
    cases alike with
    | nil => rfl
    | cons _ later => simp [batch, later.length_eq]
  observations := by
    have observed (request : BatchRequest) : batch.observed request =
        (request.filterMap EnrichedEvent.counted?).map ParsedEvent.counted :=
      EnrichedEvent.counted_judged request
    rw [observed, observed]
    exact ParsedEvent.observations_of_alike alike.counted

end Ingestion

namespace Call

variable {ρ σ : Type} {how : Ingestion ρ σ} {like : σ → σ → Prop} {order order' : KeyOrder}
  {capacity buffer : Nat} {service : String} {arrivals arrivals' : List (Except Status ρ)}
  {call call' still still' : Call ρ σ} {sent sent' : List (Except Status σ)}

/-- What two calls show, of their end, their counts and their messages, is the same, or alike
in the responses. -/
structure Shown (like : σ → σ → Prop) (call call' : Call ρ σ)
    (sent sent' : List (Except Status σ)) : Prop where
  outcome : call'.outcome? = call.outcome?
  events : call'.record.events = call.record.events
  queue : List.Forall₂ (MessageAlike like) call.queue call'.queue
  taken : List.Forall₂ (MessageAlike like) call.taken call'.taken
  sent : List.Forall₂ (MessageAlike like) sent sent'

theorem Lockstep.shown (lock : Lockstep how.Alike like call call')
    (alike : List.Forall₂ (MessageAlike like) sent sent') : Shown like call call' sent sent' :=
  ⟨lock.outcome?, by rw [lock.record], lock.queue, lock.taken, alike⟩

/-- Calls show what they show when the clock stands still. -/
theorem Shown.of_stopped (shown : Shown like still still' sent sent')
    (stopped : Stopped call still) (stopped' : Stopped call' still') :
    Shown like call call' sent sent' where
  outcome := by rw [← stopped.outcome?, ← stopped'.outcome?, shown.outcome]
  events := by rw [← stopped.events, ← stopped'.events, shown.events]
  queue := by rw [← stopped.queue, ← stopped'.queue]; exact shown.queue
  taken := by rw [← stopped.taken, ← stopped'.taken]; exact shown.taken
  sent := shown.sent

/-- Two schedules with the same steps and the same readings, or with readings of which each
fit together. -/
def Matched (how how' : Ingestion ρ σ) (capacity : Nat) (call call' : Call ρ σ)
    (schedule schedule' : List Action) : Prop :=
  schedule' = schedule ∨
    schedule'.map Action.timeless = schedule.map Action.timeless ∧
      spentBy how capacity schedule call < Duration.limit ∧
      spentBy how' capacity schedule' call' < Duration.limit

theorem run_shown (alike : StreamsAlike how.Alike arrivals arrivals')
    (flush : how.FlushesAlike like order order') {schedule schedule' : List Action}
    (matched : Matched (how.inOrder order) (how.inOrder order') capacity
      (start service arrivals) (start service arrivals') schedule schedule') :
    Shown like ((start service arrivals).execute (how.inOrder order) capacity schedule)
      ((start service arrivals').execute (how.inOrder order') capacity schedule')
      (sentBy (how.inOrder order) capacity schedule (start service arrivals))
      (sentBy (how.inOrder order') capacity schedule' (start service arrivals')) := by
  have lock : Lockstep how.Alike like (start service arrivals) (start service arrivals') :=
    .start service alike
  rcases matched with rfl | ⟨same, fits, fits'⟩
  · obtain ⟨last, sent⟩ := Lockstep.execute flush _ lock
    exact last.shown sent
  · have zero : (start service arrivals : Call ρ σ).record.nanos = 0 :=
      Metrics.Record.nanos_start service
    have zero' : (start service arrivals' : Call ρ σ).record.nanos = 0 :=
      Metrics.Record.nanos_start service
    obtain ⟨stopped, sent⟩ := execute_stopped schedule (start_stopped service arrivals)
      (by rwa [zero, Nat.zero_add])
    obtain ⟨stopped', sent'⟩ := execute_stopped schedule' (start_stopped service arrivals')
      (by rwa [zero', Nat.zero_add])
    obtain ⟨last, together⟩ := Lockstep.execute flush (schedule.map Action.timeless) lock
    rw [← sent, ← sent', same]
    rw [same] at stopped'
    exact (last.shown together).of_stopped stopped stopped'

theorem eq_of_alike (alike : List.Forall₂ (MessageAlike Eq) sent sent') : sent' = sent := by
  induction alike with
  | nil => rfl
  | cons first _ ih => cases first <;> simp_all

/-- Two calls that a client can tell apart, if at all, by the order of the keys. -/
structure Twins (how : Ingestion ρ σ) (order order' : KeyOrder) (call call' : Call ρ σ)
    (sent sent' : List (Except Status σ)) : Prop where
  outcome : call'.outcome? = call.outcome?
  events : call'.record.events = call.record.events
  number : sent'.length = sent.length
  /-- With one order of the keys the messages are the same. -/
  same : order' = order → sent' = sent ∧ call'.taken = call.taken ∧ call'.queue = call.queue
  /-- With two orders the work items are the same, and the keys but for their order. -/
  rearranged : call.outcome? = some .completed → ∃ items keys keys', keys'.Perm keys ∧
    sent = (how.responses (items ++ keys)).map .ok ∧
    sent' = (how.responses (items ++ keys')).map .ok

/-- How many responses there are depends only on how many results. -/
def Even (how : Ingestion ρ σ) : Prop :=
  ∀ results results' : List Result, results'.length = results.length →
    (how.responses results').length = (how.responses results).length

/-- In number, the responses do not depend on the order of the keys. -/
theorem Even.flushesAlike (even : Even how) (order order' : KeyOrder) :
    how.FlushesAlike (fun _ _ => True) order order' := by
  intro a
  have size : (a.flushIn order').length = (a.flushIn order).length := by
    rw [Accumulator.flushIn, Accumulator.flushIn, List.length_append, List.length_append,
      (a.keyed_perm order' order).length_eq]
  exact List.forall₂_iff_zip.mpr ⟨(even _ _ size).symm, fun _ => trivial⟩

theorem run_twins (even : Even how) (alike : StreamsAlike how.Alike arrivals arrivals')
    {schedule schedule' : List Action}
    (matched : Matched (how.inOrder order) (how.inOrder order') (Call.capacity buffer)
      (start service arrivals) (start service arrivals') schedule schedule') :
    Twins how order order'
      ((start service arrivals).execute (how.inOrder order) (Call.capacity buffer) schedule)
      ((start service arrivals').execute (how.inOrder order') (Call.capacity buffer) schedule')
      (sentBy (how.inOrder order) (Call.capacity buffer) schedule (start service arrivals))
      (sentBy (how.inOrder order') (Call.capacity buffer) schedule' (start service arrivals')) := by
  -- Once for any two orders, when the responses agree in number, and once for the same order.
  have shown := run_shown alike (even.flushesAlike order order') matched
  refine ⟨shown.outcome, shown.events, shown.sent.length_eq.symm, ?_, ?_⟩
  · rintro rfl
    have exact : Shown Eq _ _ _ _ := run_shown alike (fun a => List.forall₂_refl _) matched
    exact ⟨eq_of_alike exact.sent, eq_of_alike exact.taken, eq_of_alike exact.queue⟩
  · intro completed
    have first := (run_delivery (how.inOrder order) buffer service arrivals schedule).whole
      completed
    have second := (run_delivery (how.inOrder order') buffer service arrivals' schedule').whole
      (shown.outcome.trans completed)
    obtain ⟨items, keys, keys', perm, _, answer, answer'⟩ :=
      how.answer_alike alike.requests order order'
    exact ⟨items, keys, keys', perm, answer ▸ first.2, answer' ▸ second.2⟩

/-- A call that has settled has counted all that its stream brought. -/
theorem FairRun.counted (run : FairRun how (Call.capacity buffer) (start service arrivals))
    {m : Nat} (settled : Settled how arrivals (run.state m)) :
    (run.state m).record.events = .ofNat (how.weigh (requests arrivals)) := by
  have delivery := run_delivery how buffer service arrivals ((List.range m).map run.action)
  have sound : (run.state m).outcome? ≠ some .overflowed :=
    run_sound service arrivals _ (run.fits m)
  have moved : (run.state m).phase ≠ .receiving := by
    cases failed : failure? arrivals with
    | none => simp [(settled.completed failed).1]
    | some status => simp [(settled.failed status failed).1]
  obtain ⟨received, _, whole, gathered⟩ := delivery.gathered sound
  rw [← whole moved]
  exact gathered.events

theorem FairRun.twins (even : Even how) (alike : StreamsAlike how.Alike arrivals arrivals')
    (run : FairRun (how.inOrder order) (Call.capacity buffer) (start service arrivals))
    (run' : FairRun (how.inOrder order') (Call.capacity buffer) (start service arrivals')) :
    ∃ n, ∀ m, n ≤ m → Twins how order order' (run.state m) (run'.state m)
      (run.state m).taken (run'.state m).taken := by
  obtain ⟨n, settles⟩ := run.settles (Nat.le_max_right buffer 1)
  obtain ⟨n', settles'⟩ := run'.settles (Nat.le_max_right buffer 1)
  refine ⟨max n n', fun m later => ?_⟩
  have settled := settles m (Nat.le_trans (Nat.le_max_left ..) later)
  have settled' := settles' m (Nat.le_trans (Nat.le_max_right ..) later)
  have events : (run'.state m).record.events = (run.state m).record.events := by
    rw [run.counted settled, run'.counted settled']
    exact congrArg _ (how.weigh_alike alike.requests)
  have drained : (run'.state m).queue = (run.state m).queue := by
    rw [settled.drained, settled'.drained]
  cases failed : failure? arrivals with
  | none =>
    obtain ⟨closed, taken, _⟩ := settled.completed failed
    obtain ⟨closed', taken', _⟩ := settled'.completed (alike.failure?.trans failed)
    obtain ⟨items, keys, keys', perm, same, answer, answer'⟩ :=
      how.answer_alike alike.requests order order'
    rw [answer] at taken
    rw [answer'] at taken'
    refine ⟨by simp [outcome?, closed, closed'], events, ?_, fun equal => ?_, fun _ =>
      ⟨items, keys, keys', perm, taken, taken'⟩⟩
    · rw [taken, taken', List.length_map, List.length_map]
      exact even _ _ (by rw [List.length_append, List.length_append, perm.length_eq])
    · have together : (run'.state m).taken = (run.state m).taken := by
        rw [taken, taken', same equal]
      exact ⟨together, together, drained⟩
  | some status =>
    obtain ⟨closed, taken⟩ := settled.failed status failed
    obtain ⟨closed', taken'⟩ := settled'.failed status (alike.failure?.trans failed)
    have together : (run'.state m).taken = (run.state m).taken := by rw [taken, taken']
    exact ⟨by simp [outcome?, closed, closed'], events, by rw [together],
      fun _ => ⟨together, together, drained⟩, by simp [outcome?, closed]⟩

/-- Calls over the one stream and the other are twins: with the same steps of call and client,
at any pace of the clock, and at the end of all runs in which the client stays and takes. -/
structure Inseparable (how : Ingestion ρ σ) (buffer : Nat) (service : String)
    (arrivals arrivals' : List (Except Status ρ)) : Prop where
  inStep : ∀ (order order' : KeyOrder) (schedule schedule' : List Action),
    Matched (how.inOrder order) (how.inOrder order') (Call.capacity buffer)
      (start service arrivals) (start service arrivals') schedule schedule' →
    Twins how order order'
      ((start service arrivals).execute (how.inOrder order) (Call.capacity buffer) schedule)
      ((start service arrivals').execute (how.inOrder order') (Call.capacity buffer) schedule')
      (sentBy (how.inOrder order) (Call.capacity buffer) schedule (start service arrivals))
      (sentBy (how.inOrder order') (Call.capacity buffer) schedule' (start service arrivals'))
  inTheEnd : ∀ (order order' : KeyOrder)
    (run : FairRun (how.inOrder order) (Call.capacity buffer) (start service arrivals))
    (run' : FairRun (how.inOrder order') (Call.capacity buffer) (start service arrivals')),
    ∃ n, ∀ m, n ≤ m → Twins how order order' (run.state m) (run'.state m)
      (run.state m).taken (run'.state m).taken

theorem inseparable (even : Even how) (alike : StreamsAlike how.Alike arrivals arrivals') :
    Inseparable how buffer service arrivals arrivals' :=
  ⟨fun _ _ _ _ matched => run_twins even alike matched,
    fun _ _ run run' => run.twins even alike run'⟩

/-- Nothing of an event is seen but whether it counts, its type, the payload of a work item and
the value of any other: two streams that agree in these are inseparable, in either mode. -/
theorem rest_unseen (buffer : Nat) (service : String) :
    (∀ arrivals arrivals', StreamsAlike SingleRequest.Alike arrivals arrivals' →
      Inseparable .single buffer service arrivals arrivals') ∧
    (∀ arrivals arrivals', StreamsAlike BatchRequest.Alike arrivals arrivals' →
      Inseparable .batch buffer service arrivals arrivals') := by
  refine ⟨fun arrivals arrivals' alike => ?_, fun arrivals arrivals' alike => ?_⟩
  · exact inseparable (fun _ _ same => same) (alike.imp Ingestion.single_alike)
  · exact inseparable (fun _ _ _ => rfl) (alike.imp Ingestion.batch_alike)

/-- A click, a request that counts nothing and a work item that is dropped, with all that may
differ; as three requests and as two batches. -/
theorem rest_unseen_click :
    let click : EnrichedEvent := ⟨some ⟨"click", "alice", 10, 17, 1⟩, [("rule", "a")], true⟩
    let view : EnrichedEvent := ⟨some ⟨"view", "", 5, 0, 2⟩, [], false⟩
    let item : EnrichedEvent := ⟨some ⟨"work-item", "none", 7, 0, 3⟩, [], true⟩
    let click' : EnrichedEvent := ⟨some ⟨"click", "bob", 10, 0, 9⟩, [], true⟩
    let view' : EnrichedEvent := ⟨none, [("rule", "b")], true⟩
    let item' : EnrichedEvent := ⟨some ⟨"work-item", "none", 8, 1, 0⟩, [], true⟩
    let requests : List SingleRequest := [some click, some view, some item]
    let requests' : List SingleRequest := [some click', none, some item']
    let batches : List BatchRequest := [[click, view], [item]]
    let batches' : List BatchRequest := [[click', view'], [item']]
    let slow : Duration := { seconds := 1, nanos := 0 }
    let schedule : List Action := List.replicate 4 (.receive .zero .zero) ++ [.send .zero]
    let schedule' : List Action := List.replicate 4 (.receive slow slow) ++ [.send slow]
    let order : KeyOrder := ⟨List.reverse, List.reverse_perm⟩
    let single := (start "single" (requests.map .ok)).execute (Ingestion.single.inOrder order)
      (Call.capacity 0) schedule
    let single' := (start "single" (requests'.map .ok)).execute (Ingestion.single.inOrder order)
      (Call.capacity 0) schedule'
    let batch := (start "batch" (batches.map .ok)).execute (Ingestion.batch.inOrder order)
      (Call.capacity 4) schedule
    let batch' := (start "batch" (batches'.map .ok)).execute (Ingestion.batch.inOrder order)
      (Call.capacity 4) schedule'
    (single'.queue = single.queue ∧ single.queue.length = 1 ∧
      single'.outcome? = some .completed ∧ single'.record.events = 3) ∧
    (batch'.queue = batch.queue ∧ batch.queue.length = 1 ∧
      batch'.outcome? = some .completed ∧ batch'.record.events = 3) := by
  intro click view item click' view' item' requests requests' batches batches' slow schedule
    schedule' order single single' batch batch'
  have singles : StreamsAlike SingleRequest.Alike (requests.map .ok) (requests'.map .ok) :=
    .request (.some ⟨rfl, rfl⟩) (.request .none (.request (.some ⟨rfl, rfl⟩) .ended))
  have together : StreamsAlike BatchRequest.Alike (batches.map .ok) (batches'.map .ok) :=
    .request (.cons (.some ⟨rfl, rfl⟩) (.cons .none .nil))
      (.request (.cons (.some ⟨rfl, rfl⟩) .nil) .ended)
  have first := ((rest_unseen 0 "single").1 _ _ singles).inStep order order schedule schedule'
    (.inr ⟨by decide, by decide +kernel, by decide +kernel⟩)
  have second := ((rest_unseen 4 "batch").2 _ _ together).inStep order order schedule schedule'
    (.inr ⟨by decide, by decide +kernel, by decide +kernel⟩)
  refine ⟨⟨(first.same rfl).2.2, by decide +kernel, first.outcome.trans (by decide +kernel),
    first.events.trans (by decide +kernel)⟩, (second.same rfl).2.2, by decide +kernel,
    second.outcome.trans (by decide +kernel), second.events.trans (by decide +kernel)⟩

end Call

end AggregateStage
