import AggregateStage.Proofs.Call.Clock

/-! Time has no say in a call. As long as the clock readings fit together, a call goes through
the same with a clock that stands still; only the times on record and the lines about them
are others. -/
namespace AggregateStage

namespace Metrics

theorem sum_zero (d : Duration) : sum d .zero = .ok d := by
  have carried : d.nanos / Duration.nanosPerSecond = 0 := Nat.div_eq_of_lt d.nanos_lt
  have kept : d.nanos % Duration.nanosPerSecond = d.nanos := Nat.mod_eq_of_lt d.nanos_lt
  simp [sum_eq_ok, Duration.add?, Duration.ofParts?, Duration.zero, carried, kept, d.seconds_lt]

namespace Record

variable (r : Record)

@[simp] theorem addRecv_zero : r.addRecv .zero = .ok r := by
  simp [addRecv, sum_zero, bind, Except.bind, pure, Except.pure]

@[simp] theorem addSend_zero : r.addSend .zero = .ok r := by
  simp [addSend, sum_zero, bind, Except.bind, pure, Except.pure]

@[simp] theorem addProcessing_zero (count : UInt64) :
    r.addProcessing .zero count = .ok { r with events := r.events + count } := by
  simp [addProcessing, sum_zero, bind, Except.bind, pure, Except.pure]

/-- A record without time on it can always be closed. -/
theorem closingLines_of_nanos {r : Record} (still : r.nanos = 0) :
    ∃ lines, r.closingLines = .ok lines := by
  cases closing : r.closingLines with
  | ok lines => exact ⟨lines, rfl⟩
  | error fault =>
    have beyond := closingLines_eq_error closing
    rw [still] at beyond
    exact absurd beyond (by decide)

end Record

end Metrics

namespace Call

variable {ρ σ : Type} {how : Ingestion ρ σ} {capacity : Nat} {call next still : Call ρ σ}
  {action : Action}

/-- The same step when the clock stands still. -/
def Action.timeless : Action → Action
  | .receive _ _ => .receive .zero .zero
  | .send _ => .send .zero
  | action => action

/-- The other call is where this one is, with no time on its record. -/
structure Stopped (call still : Call ρ σ) : Prop where
  phase : still.phase = call.phase
  arrivals : still.arrivals = call.arrivals
  accumulator : still.accumulator = call.accumulator
  queue : still.queue = call.queue
  taken : still.taken = call.taken
  attended : still.attended = call.attended
  events : still.record.events = call.record.events
  nanos : still.record.nanos = 0

theorem Stopped.outcome? (stopped : Stopped call still) : still.outcome? = call.outcome? := by
  rw [Call.outcome?, stopped.phase, Call.outcome?]

/-- A step that changes something was possible. -/
theorem Step.enabled (step : Step how capacity call action next) :
    next = call ∨ call.Enabled capacity action := by
  cases step with
  | idle => exact .inl rfl
  | fail receiving | skip receiving | process receiving | flush receiving | finish receiving
  | overflowReceiving receiving | overflowFinishing receiving => exact .inr receiving
  | send flushing _ room | sendLast flushing _ room | overflowSending flushing _ room =>
    exact .inr ⟨_, _, flushing, fun _ => room⟩
  | disconnect flushing absent => exact .inr ⟨_, _, flushing, by simp [absent]⟩
  | forward returned | close returned => exact .inr ⟨_, returned⟩
  | take waiting => exact .inr (by simp [Enabled, waiting])
  | leave => exact .inr trivial

theorem Stopped.enabled (stopped : Stopped call still)
    (possible : still.Enabled capacity action.timeless) : call.Enabled capacity action := by
  cases action with
  | receive | send | close | take =>
    simpa [Enabled, Action.timeless, stopped.phase, stopped.queue, stopped.attended] using possible
  | leave => trivial

/-- A step with readings that fit does the same when the clock stands still. -/
theorem Step.stopped (step : Step how capacity call action next)
    (fits : ¬ call.Overflows how capacity action) (stopped : Stopped call still) :
    Stopped next (still.advance how capacity action.timeless) := by
  -- The step is taken as the relation has it and computed for the still call, which zero
  -- readings cannot make overflow.
  have here := stopped
  obtain ⟨phase, arrivals, accumulator, queue, taken, attended, events, nanos⟩ := stopped
  cases step with
  | idle blocked =>
    rcases (still.advance_step action.timeless).enabled with same | possible
    · rwa [same]
    · exact absurd (here.enabled possible) blocked
  | fail receiving item =>
    simp only [advance, Action.timeless, receive, phase.trans receiving, arrivals.trans item]
    exact ⟨rfl, rfl, accumulator, queue, taken, attended, events, nanos⟩
  | skip receiving item skipped waiting =>
    have same := Metrics.Record.events_apply (.recv _) waiting
    simp only [Metrics.Recording.count, UInt64.add_zero] at same
    simp only [advance, Action.timeless, receive, phase.trans receiving, arrivals.trans item,
      recording, Metrics.Record.addRecv_zero, Call.process, skipped]
    exact ⟨receiving.symm, rfl, accumulator, queue, taken, attended, events.trans same.symm, nanos⟩
  | process receiving item counts waiting processing =>
    have first := Metrics.Record.events_apply (.recv _) waiting
    have second := Metrics.Record.events_apply (.processing _ _) processing
    simp only [Metrics.Recording.count, UInt64.add_zero] at first second
    simp only [advance, Action.timeless, receive, phase.trans receiving, arrivals.trans item,
      recording, Metrics.Record.addRecv_zero, Call.process, counts,
      Metrics.Record.addProcessing_zero]
    refine ⟨receiving.symm, rfl, ?_, queue, taken, attended, ?_, nanos⟩
    · rw [accumulator]
    · rw [second, first, events]
  | flush receiving ended responses =>
    simp only [advance, Action.timeless, receive, phase.trans receiving, arrivals.trans ended,
      accumulator, responses, settle]
    exact ⟨rfl, ended.symm, rfl, queue, taken, attended, events, nanos⟩
  | finish receiving ended responses closing =>
    obtain ⟨lines, closed⟩ := Metrics.Record.closingLines_of_nanos nanos
    simp only [advance, Action.timeless, receive, phase.trans receiving, arrivals.trans ended,
      accumulator, responses, settle, closed]
    exact ⟨rfl, ended.symm, rfl, queue, taken, attended, events, nanos⟩
  | send flushing present room sending =>
    have same := Metrics.Record.events_apply (.send _) sending
    simp only [Metrics.Recording.count, UInt64.add_zero] at same
    simp only [advance, Action.timeless, Call.send, phase.trans flushing, attended, present,
      hasRoom, queue, room, recording, Metrics.Record.addSend_zero, settle]
    exact ⟨rfl, arrivals, accumulator, rfl, taken, rfl, events.trans same.symm, nanos⟩
  | sendLast flushing present room sending closing =>
    have same := Metrics.Record.events_apply (.send _) sending
    simp only [Metrics.Recording.count, UInt64.add_zero] at same
    obtain ⟨lines, closed⟩ := Metrics.Record.closingLines_of_nanos nanos
    simp only [advance, Action.timeless, Call.send, phase.trans flushing, attended, present,
      hasRoom, queue, room, recording, Metrics.Record.addSend_zero, settle, closed]
    exact ⟨rfl, arrivals, accumulator, rfl, taken, rfl, events.trans same.symm, nanos⟩
  | disconnect flushing absent =>
    simp only [advance, Action.timeless, Call.send, phase.trans flushing, attended, absent,
      Bool.not_false, if_true]
    exact ⟨rfl, arrivals, accumulator, queue, taken, rfl, events, nanos⟩
  | overflowReceiving _ _ overflows => exact absurd overflows fits
  | overflowFinishing _ _ overflows => exact absurd overflows fits
  | overflowSending _ _ _ overflows => exact absurd overflows fits
  | forward returned present room =>
    simp only [advance, Action.timeless, Call.close, phase.trans returned, attended, present,
      hasRoom, queue, room]
    exact ⟨rfl, arrivals, accumulator, rfl, taken, rfl, events, nanos⟩
  | close returned silent =>
    have stays (room : call.attended = true → capacity ≤ call.queue.length) :
        (call.attended && decide (call.queue.length < capacity)) = false := by
      cases present : call.attended with
      | false => rfl
      | true => simpa using room present
    cases outcome : ‹Outcome› with
    | receiveFailed status =>
      subst outcome
      simp only [advance, Action.timeless, Call.close, phase.trans returned, hasRoom, attended,
        queue, stays (silent status rfl)]
      exact ⟨rfl, arrivals, accumulator, rfl, taken, rfl, events, nanos⟩
    | completed | disconnected | overflowed =>
      subst outcome
      simp only [advance, Action.timeless, Call.close, phase.trans returned]
      exact ⟨rfl, arrivals, accumulator, queue, taken, attended, events, nanos⟩
  | take waiting =>
    simp only [advance, Action.timeless, Call.take, queue.trans waiting]
    exact ⟨phase, arrivals, accumulator, rfl, congrArg (· ++ _) taken, attended, events, nanos⟩
  | leave => exact ⟨phase, arrivals, accumulator, rfl, taken, rfl, events, nanos⟩

theorem start_stopped (service : String) (arrivals : List (Except Status ρ)) :
    Stopped (start service arrivals : Call ρ σ) (start service arrivals) :=
  ⟨rfl, rfl, rfl, rfl, rfl, rfl, rfl, Metrics.Record.nanos_start service⟩

/-- A run with readings that fit goes and sends as it does when the clock stands still. -/
theorem execute_stopped (schedule : List Action) {call still : Call ρ σ}
    (stopped : Stopped call still)
    (fits : call.record.nanos + spentBy how capacity schedule call < Duration.limit) :
    Stopped (call.execute how capacity schedule)
      (still.execute how capacity (schedule.map Action.timeless)) ∧
    sentBy how capacity (schedule.map Action.timeless) still =
      sentBy how capacity schedule call := by
  induction schedule generalizing call still with
  | nil => exact ⟨stopped, rfl⟩
  | cons action schedule ih =>
    obtain ⟨within, rest⟩ := fits_later fits
    have next := (call.advance_step action).stopped within stopped
    obtain ⟨last, sent⟩ := ih next rest
    refine ⟨last, ?_⟩
    simp only [sentBy, List.map_cons, trace, emitted, stopped.queue, next.queue]
    exact congrArg _ sent

end Call

end AggregateStage
