import AggregateStage.Proofs.Call.Step

/-! What every interleaving of a call with its client keeps. The call has gathered the
requests that it read, what it sent is a beginning of their flush or the status that the
stream failed with, and the channel in between drops nothing while the client listens. -/
namespace AggregateStage

namespace Ingestion

variable {ρ σ : Type} (how : Ingestion ρ σ)

/-- The accumulator of some requests. -/
def accumulate (requests : List ρ) : Accumulator :=
  (requests.flatMap how.observed).foldl Accumulator.observe .empty

/-- The responses that some requests come to. -/
def answer (requests : List ρ) : List σ :=
  how.responses ((how.accumulate requests).flushIn how.order)

/-- What some requests count as together. -/
def weigh (requests : List ρ) : Nat := (requests.filterMap how.weight).sum

theorem accumulate_append (requests later : List ρ) :
    how.accumulate (requests ++ later) =
      (later.flatMap how.observed).foldl Accumulator.observe (how.accumulate requests) := by
  simp [accumulate]

theorem observed_of_skipped (request : ρ) (skipped : how.weight request = none) :
    how.observed request = [] := by
  simp [observed, how.events_of_skipped request skipped, Accumulator.counted]

end Ingestion

namespace Call

variable {ρ σ : Type} {how : Ingestion ρ σ} {capacity : Nat} {arrivals : List (Except Status ρ)}
  {received : List ρ} {call next : Call ρ σ} {action : Action} {sent : List (Except Status σ)}

/-- The requests that a stream brings before it ends or fails. -/
def requests : List (Except Status ρ) → List ρ
  | .ok request :: rest => request :: requests rest
  | _ => []

/-- The first failure of a stream. -/
def failure? : List (Except Status ρ) → Option Status
  | .ok _ :: rest => failure? rest
  | .error status :: _ => some status
  | [] => none

@[simp] theorem requests_append (received : List ρ) (rest : List (Except Status ρ)) :
    requests (received.map .ok ++ rest) = received ++ requests rest := by
  induction received with
  | nil => rfl
  | cons request received ih => simpa [requests] using ih

@[simp] theorem failure?_append (received : List ρ) (rest : List (Except Status ρ)) :
    failure? (received.map .ok ++ rest) = failure? rest := by
  induction received with
  | nil => rfl
  | cons request received ih => simpa [failure?] using ih

@[simp] theorem requests_map (received : List ρ) : requests (received.map .ok) = received := by
  simpa [requests] using requests_append received []

@[simp] theorem failure?_map (received : List ρ) : failure? (received.map .ok) = none := by
  simpa [failure?] using failure?_append received []

/-- The call has observed and counted the given requests. -/
structure Gathered (how : Ingestion ρ σ) (received : List ρ) (call : Call ρ σ) : Prop where
  accumulator : call.accumulator = how.accumulate received
  events : call.record.events = .ofNat (how.weigh received)

theorem Gathered.keep (gathered : Gathered how received call)
    (accumulator : next.accumulator = call.accumulator)
    (events : next.record.events = call.record.events) : Gathered how received next :=
  ⟨accumulator.trans gathered.accumulator, events.trans gathered.events⟩

theorem Gathered.skip (gathered : Gathered how received call) {request : ρ}
    (skipped : how.weight request = none) (accumulator : next.accumulator = call.accumulator)
    (events : next.record.events = call.record.events) :
    Gathered how (received ++ [request]) next where
  accumulator := by
    rw [accumulator, gathered.accumulator, how.accumulate_append]
    simp [how.observed_of_skipped request skipped]
  events := by simp [events, gathered.events, Ingestion.weigh, skipped]

theorem Gathered.process (gathered : Gathered how received call) {request : ρ} {size : Nat}
    (counts : how.weight request = some size)
    (accumulator : next.accumulator =
      (how.observed request).foldl Accumulator.observe call.accumulator)
    (events : next.record.events = call.record.events + .ofNat size) :
    Gathered how (received ++ [request]) next where
  accumulator := by
    rw [accumulator, gathered.accumulator, how.accumulate_append]
    simp
  events := by simp [events, gathered.events, Ingestion.weigh, counts, UInt64.ofNat_add]

/-- The channel is first in, first out, and bounded. -/
structure Channel (capacity : Nat) (call : Call ρ σ) (sent : List (Except Status σ)) : Prop where
  bounded : call.queue.length ≤ capacity
  held : call.delivered <+: sent
  intact : call.attended = true → call.delivered = sent

theorem Step.channel (step : Step how capacity call action next)
    (channel : Channel capacity call sent) :
    Channel capacity next (sent ++ next.queue.drop call.queue.length) := by
  obtain ⟨bounded, held, intact⟩ := channel
  simp only [delivered] at held intact
  rcases step.traffic with ⟨queue, taken, attended⟩ |
    ⟨present, room, message, queue, taken, attended⟩ | ⟨message, queue, taken, attended⟩ |
    ⟨_, queue, taken, attended⟩
  · refine ⟨?_, ?_, ?_⟩ <;> simp_all [delivered]
  · have whole := intact present
    refine ⟨?_, ?_, ?_⟩
    · rw [queue, List.length_append]
      exact room
    · simp [delivered, queue, taken, ← whole]
    · simp [delivered, queue, taken, ← whole]
  · have same : next.delivered = call.taken ++ call.queue := by simp [delivered, taken, queue]
    have nothing : next.queue.drop call.queue.length = [] := by simp [queue]
    rw [nothing, List.append_nil]
    refine ⟨?_, same ▸ held, ?_⟩
    · rw [queue, List.length_cons] at bounded
      omega
    · rw [attended, same]
      exact intact
  · refine ⟨?_, ?_, ?_⟩
    · simp [queue]
    · simpa [delivered, queue, taken] using (List.prefix_append _ _).trans held
    · simp [attended]

/-- How far a call has come with its stream and with the flush, by its phase. -/
def Reached (how : Ingestion ρ σ) (arrivals : List (Except Status ρ)) (received : List ρ)
    (call : Call ρ σ) (sent : List (Except Status σ)) : Prop :=
  match call.phase with
  | .receiving => arrivals = received.map .ok ++ call.arrivals ∧ sent = []
  | .flushing remaining => arrivals = received.map .ok ∧ call.arrivals = [] ∧ remaining ≠ [] ∧
      sent ++ remaining.map .ok = (how.answer received).map .ok
  | .returned .completed | .closed .completed => arrivals = received.map .ok ∧
      sent = (how.answer received).map .ok
  | .returned (.receiveFailed status) =>
      arrivals = received.map .ok ++ .error status :: call.arrivals ∧ sent = []
  | .closed (.receiveFailed status) =>
      arrivals = received.map .ok ++ .error status :: call.arrivals ∧
      (sent = [.error status] ∨ sent = [] ∧ call.attended = false)
  | .returned .disconnected | .closed .disconnected => arrivals = received.map .ok ∧
      sent <+: (how.answer received).map .ok ∧ call.attended = false
  | .returned .overflowed | .closed .overflowed => arrivals = received.map .ok ++ call.arrivals ∧
      (sent = [] ∨ call.arrivals = [] ∧ sent <+: (how.answer received).map .ok)

/-- A client that takes or leaves does not touch the call's own progress. -/
theorem Reached.frame (reached : Reached how arrivals received call sent)
    (phase : next.phase = call.phase) (unread : next.arrivals = call.arrivals)
    (absent : call.attended = false → next.attended = false) :
    Reached how arrivals received next sent := by
  unfold Reached at reached ⊢
  rw [phase, unread]
  split at reached
  · exact reached
  · exact reached
  · exact reached
  · exact reached
  · exact reached
  · exact ⟨reached.1, reached.2.imp_right fun silent => ⟨silent.1, absent silent.2⟩⟩
  · exact ⟨reached.1, reached.2.1, absent reached.2.2⟩
  · exact ⟨reached.1, reached.2.1, absent reached.2.2⟩
  · exact reached
  · exact reached

theorem stream_of_item {request : ρ} {rest : List (Except Status ρ)}
    (stream : arrivals = received.map .ok ++ call.arrivals)
    (item : call.arrivals = .ok request :: rest) :
    arrivals = (received ++ [request]).map .ok ++ rest := by
  simp [stream, item]

theorem prefix_of_split {response : σ} {remaining : List σ} {answer : List (Except Status σ)}
    (split : sent ++ (response :: remaining).map .ok = answer) :
    sent <+: answer ∧ sent ++ [.ok response] <+: answer := by
  refine ⟨⟨_, split⟩, ⟨remaining.map .ok, ?_⟩⟩
  simpa using split

/-- How far a call has come with the requests that it has received. A call that overflows may
have observed a request without counting it. -/
structure Stage (how : Ingestion ρ σ) (arrivals : List (Except Status ρ)) (received : List ρ)
    (call : Call ρ σ) (sent : List (Except Status σ)) : Prop where
  gathered : call.outcome? ≠ some .overflowed → Gathered how received call
  reached : Reached how arrivals received call sent

theorem Step.stage (positive : 0 < capacity) (step : Step how capacity call action next)
    (channel : Channel capacity call sent) (stage : Stage how arrivals received call sent) :
    ∃ later, Stage how arrivals later next (sent ++ next.queue.drop call.queue.length) := by
  obtain ⟨gathered, reached⟩ := stage
  cases step with
  | idle => exact ⟨received, gathered, by simpa using reached⟩
  | fail receiving item =>
    have before := gathered (by simp [outcome?, receiving])
    simp only [Reached, receiving] at reached
    obtain ⟨stream, rfl⟩ := reached
    exact ⟨received, fun _ => before.keep rfl rfl, item ▸ stream, by simp⟩
  | skip receiving item skipped waiting =>
    have before := gathered (by simp [outcome?, receiving])
    have events := Metrics.Record.events_apply (.recv _) waiting
    simp only [Reached, receiving] at reached
    obtain ⟨stream, rfl⟩ := reached
    refine ⟨_, fun _ => before.skip skipped rfl ?_, ?_⟩
    · simpa [Metrics.Recording.count] using events
    · simpa [Reached, receiving] using stream_of_item stream item
  | process receiving item counts waiting processing =>
    have before := gathered (by simp [outcome?, receiving])
    have first := Metrics.Record.events_apply (.recv _) waiting
    have second := Metrics.Record.events_apply (.processing _ _) processing
    simp only [Reached, receiving] at reached
    obtain ⟨stream, rfl⟩ := reached
    refine ⟨_, fun _ => before.process counts rfl ?_, ?_⟩
    · simpa [first, Metrics.Recording.count] using second
    · simpa [Reached, receiving] using stream_of_item stream item
  | flush receiving ended responses =>
    have before := gathered (by simp [outcome?, receiving])
    simp only [Reached, receiving, ended, List.append_nil] at reached
    obtain ⟨stream, rfl⟩ := reached
    rw [before.accumulator] at responses
    refine ⟨received, fun _ => before.keep rfl rfl, stream, ended, by simp, ?_⟩
    simp [Ingestion.answer, responses]
  | finish receiving ended responses closing =>
    have before := gathered (by simp [outcome?, receiving])
    simp only [Reached, receiving, ended, List.append_nil] at reached
    obtain ⟨stream, rfl⟩ := reached
    rw [before.accumulator] at responses
    refine ⟨received, fun _ => before.keep rfl rfl, stream, ?_⟩
    simp [Ingestion.answer, responses]
  | send flushing present room sending =>
    have before := gathered (by simp [outcome?, flushing])
    have events := Metrics.Record.events_apply (.send _) sending
    simp only [Reached, flushing] at reached
    obtain ⟨stream, ended, _, split⟩ := reached
    refine ⟨received, fun _ => before.keep rfl ?_, stream, ended, by simp, ?_⟩
    · simpa [Metrics.Recording.count] using events
    · simpa using split
  | sendLast flushing present room sending closing =>
    have before := gathered (by simp [outcome?, flushing])
    have events := Metrics.Record.events_apply (.send _) sending
    simp only [Reached, flushing] at reached
    obtain ⟨stream, ended, _, split⟩ := reached
    refine ⟨received, fun _ => before.keep rfl ?_, stream, ?_⟩
    · simpa [Metrics.Recording.count] using events
    · simpa using split
  | disconnect flushing absent =>
    have before := gathered (by simp [outcome?, flushing])
    simp only [Reached, flushing] at reached
    obtain ⟨stream, _, _, split⟩ := reached
    refine ⟨received, fun _ => before.keep rfl rfl, stream, ?_, absent⟩
    simpa using (prefix_of_split split).1
  | overflowReceiving receiving item =>
    simp only [Reached, receiving] at reached
    obtain ⟨stream, rfl⟩ := reached
    exact ⟨_, fun sound => absurd rfl sound, stream_of_item stream item, .inl (by simp)⟩
  | overflowFinishing receiving ended =>
    simp only [Reached, receiving] at reached
    obtain ⟨stream, rfl⟩ := reached
    exact ⟨received, fun sound => absurd rfl sound, stream, .inl (by simp)⟩
  | overflowSending flushing present room =>
    simp only [Reached, flushing] at reached
    obtain ⟨stream, ended, _, split⟩ := reached
    refine ⟨received, fun sound => absurd rfl sound, by simp [stream, ended], .inr ⟨ended, ?_⟩⟩
    simpa using (prefix_of_split split).2
  | forward returned present room =>
    have before := gathered (by simp [outcome?, returned])
    simp only [Reached, returned] at reached
    obtain ⟨stream, rfl⟩ := reached
    exact ⟨received, fun _ => before.keep rfl rfl, stream, .inl (by simp)⟩
  | close returned silent =>
    refine ⟨received, fun sound => ?_, ?_⟩
    · exact (gathered (by simpa [outcome?, returned] using sound)).keep rfl rfl
    · rw [List.drop_length, List.append_nil]
      cases outcome : ‹Outcome› with
      | receiveFailed status =>
        subst outcome
        simp only [Reached, returned] at reached
        obtain ⟨stream, rfl⟩ := reached
        refine ⟨stream, .inr ⟨rfl, ?_⟩⟩
        -- nothing was sent, so the queue of a client that listens has room
        cases present : call.attended with
        | false => rfl
        | true =>
          have whole := channel.intact present
          simp only [delivered, List.append_eq_nil_iff] at whole
          have full := silent status rfl present
          simp only [whole.2, List.length_nil] at full
          omega
      | completed => subst outcome; simpa [Reached, returned] using reached
      | disconnected => subst outcome; simpa [Reached, returned] using reached
      | overflowed => subst outcome; simpa [Reached, returned] using reached
  | take waiting =>
    rw [List.drop_eq_nil_of_le (by simp [waiting]), List.append_nil]
    exact ⟨received, fun sound => (gathered sound).keep rfl rfl, reached.frame rfl rfl id⟩
  | leave =>
    rw [List.drop_nil, List.append_nil]
    exact ⟨received, fun sound => (gathered sound).keep rfl rfl, reached.frame rfl rfl fun _ => rfl⟩

/-- What every step keeps: the call's own progress and the channel, tied by what was sent. -/
structure Invariant (how : Ingestion ρ σ) (capacity : Nat) (arrivals : List (Except Status ρ))
    (call : Call ρ σ) (sent : List (Except Status σ)) : Prop where
  stage : ∃ received, Stage how arrivals received call sent
  channel : Channel capacity call sent

theorem start_invariant (service : String) (arrivals : List (Except Status ρ)) :
    Invariant how capacity arrivals (start service arrivals) [] where
  stage := ⟨[], fun _ => ⟨rfl, rfl⟩, rfl, rfl⟩
  channel := ⟨Nat.zero_le _, List.prefix_refl _, fun _ => rfl⟩

/-- Every interleaving keeps the invariant. -/
theorem run_invariant (positive : 0 < capacity) (service : String)
    (arrivals : List (Except Status ρ)) (schedule : List Action) :
    Invariant how capacity arrivals ((start service arrivals).execute how capacity schedule)
      (sentBy how capacity schedule (start service arrivals)) := by
  have preserved (call : Call ρ σ) (sent : List (Except Status σ)) (action : Action)
      (valid : Invariant how capacity arrivals call sent) :
      Invariant how capacity arrivals (call.advance how capacity action)
        (sent ++ emitted how capacity call action) := by
    obtain ⟨⟨received, stage⟩, channel⟩ := valid
    have step : Step how capacity call action _ := advance_step call action
    exact ⟨step.stage positive channel stage, step.channel channel⟩
  exact execute_invariant (Invariant how capacity arrivals) preserved schedule _ []
    (start_invariant service arrivals)

end Call

end AggregateStage
