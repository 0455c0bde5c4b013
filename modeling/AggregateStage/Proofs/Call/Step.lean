import Mathlib.Algebra.Ring.Nat
import AggregateStage.Call.State
import AggregateStage.Proofs.Recording

/-! The steps of a call as a relation. `advance_step` is the only place that opens the
step function; what a run keeps is proved case by case on the relation. -/
namespace AggregateStage.Call

variable {ρ σ : Type} {how : Ingestion ρ σ} {capacity : Nat}

/-- Whether a step is possible. A send waits for room as long as the client listens. -/
def Enabled (capacity : Nat) (call : Call ρ σ) : Action → Prop
  | .receive _ _ => call.phase = .receiving
  | .send _ => ∃ response remaining, call.phase = .flushing (response :: remaining) ∧
      (call.attended = true → call.queue.length < capacity)
  | .close => ∃ outcome, call.phase = .returned outcome
  | .take => call.queue ≠ []
  | .leave => True

/-- The clock readings that a step puts on record, in nanoseconds. -/
def timed (how : Ingestion ρ σ) (capacity : Nat) (call : Call ρ σ) : Action → Nat
  | .receive waited processed =>
    match call.phase, call.arrivals with
    | .receiving, .ok request :: _ =>
      waited.toNanos + if (how.weight request).isSome then processed.toNanos else 0
    | _, _ => 0
  | .send elapsed =>
    match call.phase with
    | .flushing (_ :: _) => if call.attended && call.hasRoom capacity then elapsed.toNanos else 0
    | _ => 0
  | _ => 0

theorem timed_ended (call : Call ρ σ) (receiving : call.phase = .receiving)
    (ended : call.arrivals = []) : call.timed how capacity (.receive waited processed) = 0 := by
  simp only [timed, receiving, ended]

/-- The time on record and the readings of a step do not fit together. -/
def Overflows (how : Ingestion ρ σ) (capacity : Nat) (call : Call ρ σ) (action : Action) : Prop :=
  Duration.limit ≤ call.record.nanos + call.timed how capacity action

/-- Everything that one step can do to a call. What a call has noted by the time that it
overflows is left open. -/
inductive Step (how : Ingestion ρ σ) (capacity : Nat) (call : Call ρ σ) :
    Action → Call ρ σ → Prop where
  | idle (blocked : ¬ call.Enabled capacity action) : Step how capacity call action call
  | fail (receiving : call.phase = .receiving) (item : call.arrivals = .error status :: rest) :
      Step how capacity call (.receive waited processed)
        { call with phase := .returned (.receiveFailed status), arrivals := rest }
  | skip (receiving : call.phase = .receiving) (item : call.arrivals = .ok request :: rest)
      (skipped : how.weight request = none) (waiting : call.record.addRecv waited = .ok noted) :
      Step how capacity call (.receive waited processed)
        { call with arrivals := rest, record := noted }
  | process (receiving : call.phase = .receiving) (item : call.arrivals = .ok request :: rest)
      (counts : how.weight request = some size)
      (waiting : call.record.addRecv waited = .ok received)
      (processing : received.addProcessing processed (.ofNat size) = .ok noted) :
      Step how capacity call (.receive waited processed)
        { call with
          arrivals := rest
          accumulator := (how.observed request).foldl Accumulator.observe call.accumulator
          record := noted
          log := call.log ++ Event.dropLines (how.observed request) }
  | flush (receiving : call.phase = .receiving) (ended : call.arrivals = [])
      (responses : how.responses (call.accumulator.flushIn how.order) = response :: remaining) :
      Step how capacity call (.receive waited processed)
        { call with phase := .flushing (response :: remaining) }
  | finish (receiving : call.phase = .receiving) (ended : call.arrivals = [])
      (responses : how.responses (call.accumulator.flushIn how.order) = [])
      (closing : call.record.closingLines = .ok lines) :
      Step how capacity call (.receive waited processed)
        { call with phase := .returned .completed, log := call.log ++ lines }
  | send (flushing : call.phase = .flushing (response :: following :: remaining))
      (present : call.attended = true) (room : call.queue.length < capacity)
      (sending : call.record.addSend elapsed = .ok noted) :
      Step how capacity call (.send elapsed)
        { call with
          phase := .flushing (following :: remaining)
          queue := call.queue ++ [.ok response]
          record := noted }
  | sendLast (flushing : call.phase = .flushing [response])
      (present : call.attended = true) (room : call.queue.length < capacity)
      (sending : call.record.addSend elapsed = .ok noted)
      (closing : noted.closingLines = .ok lines) :
      Step how capacity call (.send elapsed)
        { call with
          phase := .returned .completed
          queue := call.queue ++ [.ok response]
          record := noted
          log := call.log ++ lines }
  | disconnect (flushing : call.phase = .flushing (response :: remaining))
      (absent : call.attended = false) :
      Step how capacity call (.send elapsed) { call with phase := .returned .disconnected }
  | overflowReceiving (receiving : call.phase = .receiving)
      (item : call.arrivals = .ok request :: rest)
      (overflows : call.Overflows how capacity (.receive waited processed)) :
      Step how capacity call (.receive waited processed)
        { call with
          phase := .returned .overflowed
          arrivals := rest
          accumulator := observed
          record := noted
          log := lines }
  | overflowFinishing (receiving : call.phase = .receiving) (ended : call.arrivals = [])
      (overflows : call.Overflows how capacity (.receive waited processed)) :
      Step how capacity call (.receive waited processed)
        { call with phase := .returned .overflowed }
  | overflowSending (flushing : call.phase = .flushing (response :: remaining))
      (present : call.attended = true) (room : call.queue.length < capacity)
      (overflows : call.Overflows how capacity (.send elapsed)) :
      Step how capacity call (.send elapsed)
        { call with
          phase := .returned .overflowed
          queue := call.queue ++ [.ok response]
          record := noted }
  | forward (returned : call.phase = .returned (.receiveFailed status))
      (present : call.attended = true) (room : call.queue.length < capacity) :
      Step how capacity call .close
        { call with
          phase := .closed (.receiveFailed status)
          queue := call.queue ++ [.error status]
          log := call.log ++ (Outcome.receiveFailed status).lines }
  | close (returned : call.phase = .returned outcome)
      (silent : ∀ status, outcome = .receiveFailed status → call.attended = true →
        capacity ≤ call.queue.length) :
      Step how capacity call .close
        { call with phase := .closed outcome, log := call.log ++ outcome.lines }
  | take (waiting : call.queue = message :: later) :
      Step how capacity call .take
        { call with queue := later, taken := call.taken ++ [message] }
  | leave : Step how capacity call .leave { call with attended := false, queue := [] }

theorem receive_step (call : Call ρ σ) (waited processed : Duration) :
    Step how capacity call (.receive waited processed) (call.receive how waited processed) := by
  rcases call with ⟨phase, arrivals, accumulator, record, queue, taken, attended, log⟩
  cases phase with
  | flushing remaining => exact .idle (by simp [Enabled])
  | returned outcome => exact .idle (by simp [Enabled])
  | closed outcome => exact .idle (by simp [Enabled])
  | receiving =>
    rcases arrivals with _ | ⟨status | request, rest⟩
    · simp only [receive]
      cases responses : how.responses (accumulator.flushIn how.order) with
      | cons response remaining => exact .flush rfl rfl responses
      | nil =>
        simp only [settle]
        cases closing : record.closingLines with
        | ok lines => exact .finish rfl rfl responses closing
        | error fault =>
          refine .overflowFinishing rfl rfl ?_
          rw [Overflows, timed_ended _ rfl rfl, Nat.add_zero]
          exact Metrics.Record.closingLines_eq_error closing
    · exact .fail rfl rfl
    · simp only [receive, recording]
      cases waiting : record.addRecv waited with
      | error fault =>
        refine .overflowReceiving rfl rfl ?_
        have beyond := Metrics.Record.apply_eq_error (.recv waited) waiting
        simp only [Metrics.Recording.elapsed] at beyond
        simp only [Overflows, timed]
        omega
      | ok received =>
        cases counts : how.weight request with
        | none =>
          simp only [Call.process, counts]
          exact .skip rfl rfl counts waiting
        | some size =>
          simp only [Call.process, counts, recording]
          cases processing : received.addProcessing processed (.ofNat size) with
          | ok noted => exact .process rfl rfl counts waiting processing
          | error fault =>
            refine .overflowReceiving rfl rfl ?_
            have first := Metrics.Record.nanos_apply (.recv waited) waiting
            have beyond :=
              Metrics.Record.apply_eq_error (.processing processed (.ofNat size)) processing
            simp only [Metrics.Recording.elapsed] at first beyond
            simp only [Overflows, timed, counts, Option.isSome_some, if_true]
            omega

theorem send_step (call : Call ρ σ) (elapsed : Duration) :
    Step how capacity call (.send elapsed) (call.send capacity elapsed) := by
  rcases call with ⟨phase, arrivals, accumulator, record, queue, taken, attended, log⟩
  rcases phase with _ | (_ | ⟨response, remaining⟩) | outcome | outcome
  · exact .idle (by simp [Enabled])
  · exact .idle (by simp [Enabled])
  · cases attended with
    | false => exact .disconnect rfl rfl
    | true =>
      by_cases room : queue.length < capacity
      · have overflows (beyond : Duration.limit ≤ record.nanos + elapsed.toNanos) :
            Overflows how capacity (⟨.flushing (response :: remaining), arrivals, accumulator,
              record, queue, taken, true, log⟩ : Call ρ σ) (.send elapsed) := by
          simpa [Overflows, timed, hasRoom, room] using beyond
        simp only [send, hasRoom, room, decide_true, Bool.not_true, Bool.false_eq_true, if_false,
          if_true, recording]
        cases sending : record.addSend elapsed with
        | error fault =>
          have beyond := Metrics.Record.apply_eq_error (.send elapsed) sending
          exact .overflowSending rfl rfl room (overflows beyond)
        | ok noted =>
          cases remaining with
          | cons following remaining => exact .send rfl rfl room sending
          | nil =>
            simp only [settle]
            cases closing : noted.closingLines with
            | ok lines => exact .sendLast rfl rfl room sending closing
            | error fault =>
              have beyond := Metrics.Record.closingLines_eq_error closing
              rw [Metrics.Record.nanos_apply (.send elapsed) sending] at beyond
              exact .overflowSending rfl rfl room (overflows beyond)
      · have blocked : ¬ Enabled capacity (⟨.flushing (response :: remaining), arrivals,
            accumulator, record, queue, taken, true, log⟩ : Call ρ σ) (.send elapsed) := by
          simpa [Enabled] using room
        have next : Step how capacity _ (.send elapsed) _ := .idle blocked
        simpa [send, hasRoom, room] using next
  · exact .idle (by simp [Enabled])
  · exact .idle (by simp [Enabled])

theorem close_step (call : Call ρ σ) : Step how capacity call .close (call.close capacity) := by
  rcases call with ⟨phase, arrivals, accumulator, record, queue, taken, attended, log⟩
  cases phase with
  | receiving => exact .idle (by simp [Enabled])
  | flushing remaining => exact .idle (by simp [Enabled])
  | closed outcome => exact .idle (by simp [Enabled])
  | returned outcome =>
    cases outcome with
    | completed => exact .close rfl (by simp)
    | disconnected => exact .close rfl (by simp)
    | overflowed => exact .close rfl (by simp)
    | receiveFailed status =>
      by_cases room : attended = true ∧ queue.length < capacity
      · obtain ⟨rfl, room⟩ := room
        simp only [Call.close, hasRoom, room, decide_true, Bool.and_self, if_true]
        exact .forward rfl rfl room
      · have silent : attended = true → capacity ≤ queue.length := by
          intro present
          exact Nat.le_of_not_lt fun less => room ⟨present, less⟩
        have next : Step how capacity (⟨.returned (.receiveFailed status), arrivals, accumulator,
            record, queue, taken, attended, log⟩ : Call ρ σ) .close _ :=
          .close rfl fun _ _ present => silent present
        simpa [Call.close, hasRoom, room] using next

theorem take_step (call : Call ρ σ) : Step how capacity call .take call.take := by
  cases waiting : call.queue with
  | nil =>
    simp only [Call.take, waiting]
    exact .idle (by simp [Enabled, waiting])
  | cons message later =>
    simp only [Call.take, waiting]
    exact .take waiting

theorem advance_step (call : Call ρ σ) (action : Action) :
    Step how capacity call action (call.advance how capacity action) := by
  cases action with
  | receive waited processed => exact receive_step call waited processed
  | send elapsed => exact send_step call elapsed
  | close => exact close_step call
  | take => exact take_step call
  | leave => exact .leave

/-- What a step does to the channel: nothing, one message more for a client that listens,
one message taken, or everything dropped. -/
theorem Step.traffic {call next : Call ρ σ} {action : Action}
    (step : Step how capacity call action next) :
    (next.queue = call.queue ∧ next.taken = call.taken ∧ next.attended = call.attended) ∨
    (call.attended = true ∧ call.queue.length < capacity ∧
      ∃ message, next.queue = call.queue ++ [message] ∧ next.taken = call.taken ∧
        next.attended = true) ∨
    (∃ message, call.queue = message :: next.queue ∧ next.taken = call.taken ++ [message] ∧
      next.attended = call.attended) ∨
    (action = .leave ∧ next.queue = [] ∧ next.taken = call.taken ∧ next.attended = false) := by
  cases step with
  | send _ present room _ => exact .inr (.inl ⟨present, room, _, rfl, rfl, present⟩)
  | sendLast _ present room _ _ => exact .inr (.inl ⟨present, room, _, rfl, rfl, present⟩)
  | overflowSending _ present room _ => exact .inr (.inl ⟨present, room, _, rfl, rfl, present⟩)
  | forward _ present room => exact .inr (.inl ⟨present, room, _, rfl, rfl, present⟩)
  | take waiting => exact .inr (.inr (.inl ⟨_, waiting, rfl, rfl⟩))
  | leave => exact .inr (.inr (.inr ⟨rfl, rfl, rfl, rfl⟩))
  | _ => exact .inl ⟨rfl, rfl, rfl⟩

variable {α : Type}

/-- What the steps of a schedule bring, one after the other. -/
def trace (how : Ingestion ρ σ) (capacity : Nat) (label : Call ρ σ → Action → List α) :
    List Action → Call ρ σ → List α
  | [], _ => []
  | action :: schedule, call =>
    label call action ++ trace how capacity label schedule (call.advance how capacity action)

/-- A property of a call and of what its steps have brought so far is kept by every run if
every step keeps it. -/
theorem execute_invariant {label : Call ρ σ → Action → List α}
    (property : Call ρ σ → List α → Prop)
    (preserved : ∀ call seen action, property call seen →
      property (call.advance how capacity action) (seen ++ label call action))
    (schedule : List Action) (call : Call ρ σ) (seen : List α) (valid : property call seen) :
    property (call.execute how capacity schedule)
      (seen ++ trace how capacity label schedule call) := by
  induction schedule generalizing call seen with
  | nil => simpa [trace, execute] using valid
  | cons action schedule ih =>
    have next := ih _ _ (preserved call seen action valid)
    simpa [trace, execute] using next

/-- The messages that a step puts into the queue. -/
def emitted (how : Ingestion ρ σ) (capacity : Nat) (call : Call ρ σ) (action : Action) :
    List (Except Status σ) :=
  (call.advance how capacity action).queue.drop call.queue.length

/-- Every message that was put into the queue, in order, whatever became of it. -/
def sentBy (how : Ingestion ρ σ) (capacity : Nat) (schedule : List Action) (call : Call ρ σ) :
    List (Except Status σ) :=
  trace how capacity (emitted how capacity) schedule call

/-- The time that a schedule puts on record. -/
def spentBy (how : Ingestion ρ σ) (capacity : Nat) (schedule : List Action)
    (call : Call ρ σ) : Nat :=
  (trace how capacity (fun call action => [call.timed how capacity action]) schedule call).sum

end AggregateStage.Call
