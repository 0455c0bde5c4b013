import Mathlib.Data.List.Forall2
import AggregateStage.Proofs.Call.Invariant

/-! Two calls in lockstep. Requests that count as much and bring the same observations take
two calls through the same, step by step; whatever else is in them goes unseen. The orders in
which the two have their keys may differ, and then their responses do. -/
namespace AggregateStage

/-- Two requests that count as much and bring the same observations. -/
structure Ingestion.Alike {ρ σ : Type} (how : Ingestion ρ σ) (request request' : ρ) : Prop where
  weight : how.weight request' = how.weight request
  observations : (how.observed request').map Event.observation =
    (how.observed request).map Event.observation

/-- Whatever was accumulated, its flush has like responses with the keys in the one order and in
the other. -/
def Ingestion.FlushesAlike {ρ σ : Type} (how : Ingestion ρ σ) (like : σ → σ → Prop)
    (order order' : KeyOrder) : Prop :=
  ∀ a : Accumulator,
    List.Forall₂ like (how.responses (a.flushIn order)) (how.responses (a.flushIn order'))

/-- Alike requests do the same to an accumulator. -/
theorem Ingestion.Alike.foldl {ρ σ : Type} {how : Ingestion ρ σ} {request request' : ρ}
    (alike : how.Alike request request') (a : Accumulator) :
    (how.observed request').foldl Accumulator.observe a =
      (how.observed request).foldl Accumulator.observe a := by
  have absorbed (events : List Event) :
      events.foldl Accumulator.observe a =
        (events.map Event.observation).foldl Accumulator.absorb a := by
    rw [List.foldl_map]
    rfl
  rw [absorbed, absorbed, alike.observations]

namespace Call

/-- Two streams of as many requests, alike one by one, with the same first failure, if any;
what a stream has behind a failure is never read. -/
inductive StreamsAlike {ρ : Type} (agree : ρ → ρ → Prop) :
    List (Except Status ρ) → List (Except Status ρ) → Prop where
  | ended : StreamsAlike agree [] []
  | failed : StreamsAlike agree (.error status :: rest) (.error status :: rest')
  | request (same : agree request request') (later : StreamsAlike agree rest rest') :
      StreamsAlike agree (.ok request :: rest) (.ok request' :: rest')

/-- Two messages with like responses or the same failure. -/
inductive MessageAlike {σ : Type} (like : σ → σ → Prop) :
    Except Status σ → Except Status σ → Prop where
  | response (same : like response response') : MessageAlike like (.ok response) (.ok response')
  | failure : MessageAlike like (.error status) (.error status)

inductive PhaseAlike {σ : Type} (like : σ → σ → Prop) : Phase σ → Phase σ → Prop where
  | receiving : PhaseAlike like .receiving .receiving
  | flushing (same : List.Forall₂ like remaining remaining') :
      PhaseAlike like (.flushing remaining) (.flushing remaining')
  | returned : PhaseAlike like (.returned outcome) (.returned outcome)
  | closed : PhaseAlike like (.closed outcome) (.closed outcome)

variable {ρ σ : Type} {agree agree' : ρ → ρ → Prop} {like : σ → σ → Prop}
  {arrivals arrivals' : List (Except Status ρ)} {call call' : Call ρ σ}

theorem StreamsAlike.imp (weaker : ∀ request request', agree request request' →
    agree' request request') (alike : StreamsAlike agree arrivals arrivals') :
    StreamsAlike agree' arrivals arrivals' := by
  induction alike with
  | ended => exact .ended
  | failed => exact .failed
  | request same _ ih => exact .request (weaker _ _ same) ih

theorem StreamsAlike.requests (alike : StreamsAlike agree arrivals arrivals') :
    List.Forall₂ agree (requests arrivals) (requests arrivals') := by
  induction alike with
  | ended => exact .nil
  | failed => exact .nil
  | request same _ ih => exact .cons same ih

theorem StreamsAlike.failure? (alike : StreamsAlike agree arrivals arrivals') :
    failure? arrivals' = failure? arrivals := by
  induction alike with
  | ended => rfl
  | failed => rfl
  | request _ _ ih => exact ih

/-- Two calls that are equally far, over streams of which the rest is alike. -/
structure Lockstep (agree : ρ → ρ → Prop) (like : σ → σ → Prop) (call call' : Call ρ σ) :
    Prop where
  phase : PhaseAlike like call.phase call'.phase
  arrivals : call.phase = .receiving → StreamsAlike agree call.arrivals call'.arrivals
  accumulator : call'.accumulator = call.accumulator
  record : call'.record = call.record
  queue : List.Forall₂ (MessageAlike like) call.queue call'.queue
  taken : List.Forall₂ (MessageAlike like) call.taken call'.taken
  attended : call'.attended = call.attended

namespace Lockstep

theorem start (service : String) (alike : StreamsAlike agree arrivals arrivals') :
    Lockstep agree like (start service arrivals) (start service arrivals') :=
  ⟨.receiving, fun _ => alike, rfl, rfl, .nil, .nil, rfl⟩

theorem outcome? (lock : Lockstep agree like call call') : call'.outcome? = call.outcome? := by
  obtain ⟨phase, _⟩ := lock
  unfold Call.outcome?
  generalize call.phase = first, call'.phase = second at phase
  cases phase <;> rfl

/-- In a phase in which nothing is received it does not matter what is left of the streams. -/
theorem moved (lock : Lockstep agree like call call') {phase phase' : Phase σ}
    (same : PhaseAlike like phase phase') (elsewhere : phase ≠ .receiving)
    (rest rest' : List (Except Status ρ)) :
    Lockstep agree like { call with phase := phase, arrivals := rest }
      { call' with phase := phase', arrivals := rest' } :=
  ⟨same, fun receiving => absurd receiving elsewhere, lock.accumulator, lock.record, lock.queue,
    lock.taken, lock.attended⟩

theorem withRecord (lock : Lockstep agree like call call') (record : Metrics.Record) :
    Lockstep agree like { call with record := record } { call' with record := record } :=
  ⟨lock.phase, lock.arrivals, lock.accumulator, rfl, lock.queue, lock.taken, lock.attended⟩

theorem withLog (lock : Lockstep agree like call call') (lines lines' : List Log.Line) :
    Lockstep agree like { call with log := lines } { call' with log := lines' } :=
  ⟨lock.phase, lock.arrivals, lock.accumulator, lock.record, lock.queue, lock.taken,
    lock.attended⟩

/-- What is sent to the one client and the other is alike. -/
theorem queued (lock : Lockstep agree like call call') {message message' : Except Status σ}
    (same : MessageAlike like message message') :
    Lockstep agree like { call with queue := call.queue ++ [message] }
      { call' with queue := call'.queue ++ [message'] } :=
  ⟨lock.phase, lock.arrivals, lock.accumulator, lock.record,
    List.rel_append lock.queue (.cons same .nil), lock.taken, lock.attended⟩

theorem recording (lock : Lockstep agree like call call')
    {record record' : Except Metrics.Fault Metrics.Record} (same : record' = record)
    {next next' : Metrics.Record → Call ρ σ}
    (goes : ∀ record, Lockstep agree like (next record) (next' record)) :
    Lockstep agree like (call.recording record next) (call'.recording record' next') := by
  subst same
  unfold Call.recording
  split
  · exact goes _
  · exact lock.moved .returned (by simp) _ _

/-- Two calls that go by the same condition. -/
theorem ite {met met' : Bool} (same : met' = met) {other other' : Call ρ σ}
    (lock : Lockstep agree like call call') (otherwise : Lockstep agree like other other') :
    Lockstep agree like (if met then call else other) (if met' then call' else other') := by
  subst same
  split
  · exact lock
  · exact otherwise

theorem settle (lock : Lockstep agree like call call') :
    Lockstep agree like call.settle call'.settle := by
  have closing : call'.record.closingLines = call.record.closingLines := by rw [lock.record]
  have phase := lock.phase
  unfold Call.settle
  generalize call.phase = first, call'.phase = second at phase
  cases phase with
  | receiving | returned | closed => exact lock
  | flushing same =>
    cases same with
    | cons => exact lock
    | nil =>
      simp only [closing]
      split
      · exact (lock.moved .returned (by simp) _ _).withLog _ _
      · exact lock.moved .returned (by simp) _ _

variable {how : Ingestion ρ σ} {order order' : KeyOrder} {capacity : Nat}

theorem process (lock : Lockstep how.Alike like call call') {request request' : ρ}
    (same : how.Alike request request') (processed : Duration) :
    Lockstep how.Alike like (call.process (how.inOrder order) request processed)
      (call'.process (how.inOrder order') request' processed) := by
  have weight : (how.inOrder order').weight request' = (how.inOrder order).weight request :=
    same.weight
  have folded : (how.observed request').foldl Accumulator.observe call'.accumulator =
      (how.observed request).foldl Accumulator.observe call.accumulator := by
    rw [lock.accumulator, same.foldl]
  unfold Call.process
  rw [weight]
  split
  · exact lock
  · have observed : Lockstep how.Alike like
        { call with
          accumulator := (how.observed request).foldl Accumulator.observe call.accumulator
          log := call.log ++ Event.dropLines (how.observed request) }
        { call' with
          accumulator := (how.observed request').foldl Accumulator.observe call'.accumulator
          log := call'.log ++ Event.dropLines (how.observed request') } :=
      ⟨lock.phase, lock.arrivals, folded, lock.record, lock.queue, lock.taken, lock.attended⟩
    exact observed.recording (by rw [lock.record]) observed.withRecord

theorem receive (lock : Lockstep how.Alike like call call')
    (flush : how.FlushesAlike like order order') (waited processed : Duration) :
    Lockstep how.Alike like (call.receive (how.inOrder order) waited processed)
      (call'.receive (how.inOrder order') waited processed) := by
  have phase := lock.phase
  unfold Call.receive
  generalize here : call.phase = first, call'.phase = second at phase
  cases phase with
  | flushing | returned | closed => exact lock
  | receiving =>
    have alike := lock.arrivals here
    generalize call.arrivals = stream, call'.arrivals = stream' at alike
    cases alike with
    | ended =>
      have same : List.Forall₂ like (how.responses (call.accumulator.flushIn order))
          (how.responses (call'.accumulator.flushIn order')) :=
        lock.accumulator ▸ flush call.accumulator
      exact settle (lock.moved (.flushing same) (by simp) _ _)
    -- The streams may differ behind the failure, but nobody reads on.
    | failed => exact lock.moved .returned (by simp) _ _
    | request same later =>
      have next {rest rest' : List (Except Status ρ)} (alike : StreamsAlike how.Alike rest rest') :
          Lockstep how.Alike like { call with phase := .receiving, arrivals := rest }
            { call' with phase := .receiving, arrivals := rest' } :=
        ⟨.receiving, fun _ => alike, lock.accumulator, lock.record, lock.queue, lock.taken,
          lock.attended⟩
      exact (next later).recording (by rw [lock.record]) fun record =>
        ((next later).withRecord record).process same processed

theorem hasRoom (lock : Lockstep agree like call call') :
    call'.hasRoom capacity = call.hasRoom capacity := by
  rw [Call.hasRoom, Call.hasRoom, lock.queue.length_eq]

theorem send (lock : Lockstep agree like call call') (elapsed : Duration) :
    Lockstep agree like (call.send capacity elapsed) (call'.send capacity elapsed) := by
  have phase := lock.phase
  unfold Call.send
  generalize call.phase = first, call'.phase = second at phase
  cases phase with
  | receiving | returned | closed => exact lock
  | flushing same =>
    cases same with
    | nil => exact lock
    | cons first later =>
      have sent := (lock.moved (.flushing later) (by simp) call.arrivals call'.arrivals).queued
        (.response first)
      exact Lockstep.ite (by rw [lock.attended]) (lock.moved .returned (by simp) _ _)
        (Lockstep.ite lock.hasRoom
          (sent.recording (by rw [lock.record]) fun record => (sent.withRecord record).settle)
          lock)

theorem close (lock : Lockstep agree like call call') :
    Lockstep agree like (call.close capacity) (call'.close capacity) := by
  have phase := lock.phase
  unfold Call.close
  generalize call.phase = first, call'.phase = second at phase
  cases phase with
  | receiving | flushing | closed => exact lock
  | @returned outcome =>
    have closed : Lockstep agree like
        { call with phase := .closed outcome, log := call.log ++ outcome.lines }
        { call' with phase := .closed outcome, log := call'.log ++ outcome.lines } :=
      (lock.moved .closed (by simp) _ _).withLog _ _
    cases outcome with
    | completed | disconnected | overflowed => exact closed
    | receiveFailed status =>
      exact Lockstep.ite (congrArg₂ (· && ·) closed.attended closed.hasRoom)
        (closed.queued .failure) closed

theorem take (lock : Lockstep agree like call call') :
    Lockstep agree like call.take call'.take := by
  have queue := lock.queue
  unfold Call.take
  generalize call.queue = first, call'.queue = second at queue
  cases queue with
  | nil => exact lock
  | cons first later =>
    exact ⟨lock.phase, lock.arrivals, lock.accumulator, lock.record, later,
      List.rel_append lock.taken (.cons first .nil), lock.attended⟩

theorem leave (lock : Lockstep agree like call call') :
    Lockstep agree like call.leave call'.leave :=
  ⟨lock.phase, lock.arrivals, lock.accumulator, lock.record, .nil, lock.taken, rfl⟩

theorem advance (lock : Lockstep how.Alike like call call')
    (flush : how.FlushesAlike like order order') (action : Action) :
    Lockstep how.Alike like (call.advance (how.inOrder order) capacity action)
      (call'.advance (how.inOrder order') capacity action) := by
  cases action with
  | receive waited processed => exact lock.receive flush waited processed
  | send elapsed => exact lock.send elapsed
  | close => exact lock.close
  | take => exact lock.take
  | leave => exact lock.leave

/-- The same schedule takes both through the same. -/
theorem execute (flush : how.FlushesAlike like order order') (schedule : List Action)
    {call call' : Call ρ σ} (lock : Lockstep how.Alike like call call') :
    Lockstep how.Alike like (call.execute (how.inOrder order) capacity schedule)
      (call'.execute (how.inOrder order') capacity schedule) ∧
    List.Forall₂ (MessageAlike like) (sentBy (how.inOrder order) capacity schedule call)
      (sentBy (how.inOrder order') capacity schedule call') := by
  induction schedule generalizing call call' with
  | nil => exact ⟨lock, .nil⟩
  | cons action schedule ih =>
    have next : Lockstep how.Alike like (call.advance (how.inOrder order) capacity action) _ :=
      lock.advance flush action
    obtain ⟨last, sent⟩ := ih next
    refine ⟨last, List.rel_append ?_ sent⟩
    rw [emitted, emitted, ← lock.queue.length_eq]
    exact List.forall₂_drop _ next.queue

end Lockstep

end Call

end AggregateStage
