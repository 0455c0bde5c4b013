import AggregateStage.Proofs.Call.Agreement
import AggregateStage.Proofs.Call.Delivery

/-! The books of a call. Each clock reading goes to what it was taken for: waiting for a
request, processing one, sending a response that the channel took. Nothing is booked of a look
that found the end of the stream or its failure, nor of a response that was not taken; and the
books are closed with a summary once, by a call that has sent all it had to. -/
namespace AggregateStage

namespace Metrics.Record

variable {r next : Record} {elapsed : Duration} {count : UInt64} {lines : List Log.Line}

theorem addRecv_eq_ok (added : r.addRecv elapsed = .ok next) :
    next.recv.toNanos = r.recv.toNanos + elapsed.toNanos ∧ next.processing = r.processing ∧
      next.send = r.send := by
  obtain ⟨total, exact, rfl⟩ := record_eq_ok added
  exact ⟨Duration.add?_eq_some exact, rfl, rfl⟩

theorem addProcessing_eq_ok (added : r.addProcessing elapsed count = .ok next) :
    next.processing.toNanos = r.processing.toNanos + elapsed.toNanos ∧ next.recv = r.recv ∧
      next.send = r.send := by
  obtain ⟨total, exact, rfl⟩ := record_eq_ok added
  exact ⟨Duration.add?_eq_some exact, rfl, rfl⟩

theorem addSend_eq_ok (added : r.addSend elapsed = .ok next) :
    next.send.toNanos = r.send.toNanos + elapsed.toNanos ∧ next.recv = r.recv ∧
      next.processing = r.processing := by
  obtain ⟨total, exact, rfl⟩ := record_eq_ok added
  exact ⟨Duration.add?_eq_some exact, rfl, rfl⟩

/-- A record without events or without time closes in silence, any other with a summary. -/
theorem closingLines_eq_ok (closing : r.closingLines = .ok lines) :
    (r.events = 0 ∨ r.nanos = 0) ∧ lines = [] ∨
    r.events ≠ 0 ∧ r.nanos ≠ 0 ∧ ∃ total, total.toNanos = r.nanos ∧
      lines = Summary.lines ⟨r.service, r.events, total, r.processing, r.send, r.recv⟩ := by
  unfold closingLines at closing
  rcases r.summary_cases with ⟨_, failed⟩ | ⟨total, exact, formed⟩
  · simp [failed, bind, Except.bind] at closing
  · by_cases silent : r.events = 0 ∨ r.nanos = 0
    · simp only [formed, if_pos silent, bind, Except.bind, pure, Except.pure,
        Except.ok.injEq] at closing
      exact .inl ⟨silent, closing.symm⟩
    · simp only [formed, if_neg silent, bind, Except.bind, pure, Except.pure,
        Except.ok.injEq] at closing
      rw [not_or] at silent
      exact .inr ⟨silent.1, silent.2, total, exact, closing.symm⟩

end Metrics.Record

namespace Call

variable {ρ σ : Type}

/-- A look at the stream: what it found, and the readings of waiting for that and of
processing it. -/
structure Look (ρ : Type) where
  item : Option (Except Status ρ)
  waited : Duration
  processed : Duration

/-- What a call finds when it looks at a stream until that ends or fails. -/
def finds (arrivals : List (Except Status ρ)) : List (Option (Except Status ρ)) :=
  (requests arrivals).map (fun request => some (.ok request)) ++ [(failure? arrivals).map .error]

/-- The wait for a request, in nanoseconds. -/
def Look.recv (look : Look ρ) : Nat :=
  match look.item with
  | some (.ok _) => look.waited.toNanos
  | _ => 0

/-- The time that a request took, if it is of those that are processed. -/
def Look.processing (processed : ρ → Bool) (look : Look ρ) : Nat :=
  match look.item with
  | some (.ok request) => if processed request then look.processed.toNanos else 0
  | _ => 0

/-- The looks of a step. -/
def looks (call : Call ρ σ) : Action → List (Look ρ)
  | .receive waited processed =>
    match call.phase with
    | .receiving => [⟨call.arrivals.head?, waited, processed⟩]
    | _ => []
  | _ => []

/-- The responses of a step that the channel takes, with the readings of sending them. -/
def posts (capacity : Nat) (call : Call ρ σ) : Action → List (σ × Duration)
  | .send elapsed =>
    match call.phase with
    | .flushing (response :: _) =>
      if call.attended && call.hasRoom capacity then [(response, elapsed)] else []
    | _ => []
  | _ => []

/-- The lines of summaries in the log of a call. -/
def summaryLines (call : Call ρ σ) : List Log.Line :=
  call.log.filter fun line => line.origin == .metrics

variable {how : Ingestion ρ σ} {capacity : Nat} {arrivals : List (Except Status ρ)}
  {call next : Call ρ σ} {action : Action} {processed : ρ → Bool}

/-! What is booked of the stream. -/

/-- The books agree with the looks, and these with the stream as far as it was read. -/
structure Booked (processed : ρ → Bool) (arrivals : List (Except Status ρ)) (call : Call ρ σ)
    (seen : List (Look ρ)) : Prop where
  recv : call.record.recv.toNanos = (seen.map Look.recv).sum
  processing : call.record.processing.toNanos = (seen.map (Look.processing processed)).sum
  going : call.phase = .receiving → ∃ received : List ρ,
    arrivals = received.map .ok ++ call.arrivals ∧
    seen.map Look.item = received.map fun request => some (.ok request)
  done : call.phase ≠ .receiving → seen.map Look.item = finds arrivals

namespace Booked

variable {seen : List (Look ρ)}

/-- A step that does not look at the stream. -/
theorem keep (booked : Booked processed arrivals call seen)
    (recv : next.record.recv = call.record.recv)
    (processing : next.record.processing = call.record.processing)
    (phase : next.phase = .receiving ↔ call.phase = .receiving)
    (unread : next.arrivals = call.arrivals) : Booked processed arrivals next (seen ++ []) := by
  rw [List.append_nil]
  refine ⟨recv ▸ booked.recv, processing ▸ booked.processing, fun receiving => ?_, fun elsewhere =>
    booked.done (mt phase.mpr elsewhere)⟩
  rw [unread]
  exact booked.going (phase.mp receiving)

/-- A look that finds a request. -/
theorem request (booked : Booked processed arrivals call seen)
    (receiving : call.phase = .receiving) {request : ρ} {rest : List (Except Status ρ)}
    (item : call.arrivals = .ok request :: rest) {waited spent : Duration}
    (recv : next.record.recv.toNanos = call.record.recv.toNanos + waited.toNanos)
    (processing : next.record.processing.toNanos = call.record.processing.toNanos +
      if processed request then spent.toNanos else 0)
    (phase : next.phase = .receiving) (unread : next.arrivals = rest) :
    Booked processed arrivals next (seen ++ [⟨some (.ok request), waited, spent⟩]) := by
  obtain ⟨received, stream, items⟩ := booked.going receiving
  refine ⟨?_, ?_, fun _ => ⟨received ++ [request], ?_, ?_⟩, fun elsewhere => absurd phase elsewhere⟩
  · simp [recv, booked.recv, Look.recv]
  · simp [processing, booked.processing, Look.processing]
  · rw [unread]
    exact stream_of_item stream item
  · simp [items]

/-- The look that finds the end of the stream or its failure. -/
theorem last (booked : Booked processed arrivals call seen)
    (receiving : call.phase = .receiving) {item : Option (Except Status ρ)}
    (ended : requests call.arrivals = []) (found : (failure? call.arrivals).map .error = item)
    {waited spent : Duration} (same : next.record = call.record)
    (moved : next.phase ≠ .receiving) :
    Booked processed arrivals next (seen ++ [⟨item, waited, spent⟩]) := by
  obtain ⟨received, stream, items⟩ := booked.going receiving
  subst found
  refine ⟨?_, ?_, fun phase => absurd phase moved, fun _ => ?_⟩
  · cases failed : failure? call.arrivals <;> simp [same, booked.recv, Look.recv]
  · cases failed : failure? call.arrivals <;> simp [same, booked.processing, Look.processing]
  · simp [stream, finds, items, ended]

end Booked

theorem looks_blocked (blocked : ¬ call.Enabled capacity action) : call.looks action = [] := by
  cases action with
  | receive waited spent =>
    have phase : call.phase ≠ .receiving := blocked
    simp only [looks]
  | _ => rfl

theorem looks_receiving {waited spent : Duration} (receiving : call.phase = .receiving) :
    call.looks (.receive waited spent) = [⟨call.arrivals.head?, waited, spent⟩] := by
  simp only [looks, receiving]

theorem Step.booked {seen : List (Look ρ)} (weighed : ∀ request, processed request =
      (how.weight request).isSome) (step : Step how capacity call action next)
    (fits : ¬ call.Overflows how capacity action) (booked : Booked processed arrivals call seen) :
    Booked processed arrivals next (seen ++ call.looks action) := by
  cases step with
  | idle blocked =>
    rw [looks_blocked blocked]
    exact booked.keep rfl rfl .rfl rfl
  | fail receiving item =>
    rw [looks_receiving receiving, item]
    exact booked.last receiving (by simp [item, requests]) (by simp [item, failure?]) rfl (by simp)
  | skip receiving item skipped waiting =>
    obtain ⟨recv, processing, _⟩ := Metrics.Record.addRecv_eq_ok waiting
    rw [looks_receiving receiving, item]
    exact booked.request receiving item recv (by simp [weighed, skipped, processing]) receiving rfl
  | process receiving item counts waiting processing =>
    obtain ⟨recv, before, _⟩ := Metrics.Record.addRecv_eq_ok waiting
    obtain ⟨processing, same, _⟩ := Metrics.Record.addProcessing_eq_ok processing
    rw [looks_receiving receiving, item]
    refine booked.request receiving item (same ▸ recv) ?_ receiving rfl
    simp [weighed, counts, processing, before]
  | flush receiving ended =>
    rw [looks_receiving receiving, ended]
    exact booked.last receiving (by simp [ended, requests]) (by simp [ended, failure?]) rfl
      (by simp)
  | finish receiving ended =>
    rw [looks_receiving receiving, ended]
    exact booked.last receiving (by simp [ended, requests]) (by simp [ended, failure?]) rfl
      (by simp)
  | send flushing present room sending =>
    obtain ⟨_, recv, processing⟩ := Metrics.Record.addSend_eq_ok sending
    exact booked.keep recv processing (by simp [flushing]) rfl
  | sendLast flushing present room sending =>
    obtain ⟨_, recv, processing⟩ := Metrics.Record.addSend_eq_ok sending
    exact booked.keep recv processing (by simp [flushing]) rfl
  | disconnect flushing => exact booked.keep rfl rfl (by simp [flushing]) rfl
  | overflowReceiving _ _ overflows => exact absurd overflows fits
  | overflowFinishing _ _ overflows => exact absurd overflows fits
  | overflowSending _ _ _ overflows => exact absurd overflows fits
  | forward returned | close returned => exact booked.keep rfl rfl (by simp [returned]) rfl
  | take | leave => exact booked.keep rfl rfl .rfl rfl

/-! What is booked of the channel. -/

theorem posts_blocked (blocked : ¬ call.Enabled capacity action) :
    call.posts capacity action = [] := by
  cases action with
  | send elapsed =>
    simp only [posts]
    split
    · rename_i response remaining flushing
      have full : ¬ (call.attended = true → call.queue.length < capacity) :=
        fun room => blocked ⟨response, remaining, flushing, room⟩
      obtain ⟨_, crowded⟩ := Classical.not_imp.mp full
      simp [hasRoom, crowded]
    · rfl
  | _ => rfl

theorem posts_sent {response : σ} {remaining : List σ} {elapsed : Duration}
    (flushing : call.phase = .flushing (response :: remaining)) (present : call.attended = true)
    (room : call.queue.length < capacity) :
    call.posts capacity (.send elapsed) = [(response, elapsed)] := by
  simp [posts, flushing, present, hasRoom, room]

theorem posts_unattended {elapsed : Duration} (absent : call.attended = false) :
    call.posts capacity (.send elapsed) = [] := by
  simp only [posts, absent]
  split <;> rfl

/-- A call that has returned posts nothing more. -/
theorem posts_returned {outcome : Outcome} (returned : call.outcome? = some outcome)
    (capacity : Nat) (action : Action) : call.posts capacity action = [] := by
  cases action with
  | send elapsed =>
    simp only [posts]
    split
    · rename_i flushing
      simp [outcome?, flushing] at returned
    · rfl
  | _ => rfl

/-- The channel takes what is posted and, of responses, nothing else. -/
theorem Step.posted (step : Step how capacity call action next) :
    (next.queue.drop call.queue.length).filterMap Except.toOption =
      (call.posts capacity action).map Prod.fst := by
  cases step with
  | idle blocked => simp [posts_blocked blocked]
  | send flushing present room | sendLast flushing present room
  | overflowSending flushing present room =>
    simp [posts_sent flushing present room, Except.toOption]
  | disconnect flushing absent => simp [posts_unattended absent]
  | forward => simp [posts, Except.toOption]
  | take waiting =>
    rw [List.drop_eq_nil_of_le (by simp [waiting])]
    rfl
  | _ => simp [posts]

theorem trace_filterMap {α β γ : Type} {label : Call ρ σ → Action → List α}
    {label' : Call ρ σ → Action → List β} {f : α → Option γ} {g : β → γ}
    (same : ∀ (call : Call ρ σ) (action : Action),
      (label call action).filterMap f = (label' call action).map g)
    (schedule : List Action) (call : Call ρ σ) :
    (trace how capacity label schedule call).filterMap f =
      (trace how capacity label' schedule call).map g := by
  induction schedule generalizing call with
  | nil => rfl
  | cons action schedule ih => simp only [trace, List.filterMap_append, List.map_append, same, ih]

theorem sentBy_posts (schedule : List Action) (call : Call ρ σ) :
    (sentBy how capacity schedule call).filterMap Except.toOption =
      (trace how capacity (posts capacity) schedule call).map Prod.fst :=
  trace_filterMap (fun call action => (call.advance_step action).posted) schedule call

/-- The books agree with the posts. -/
def Sent (call : Call ρ σ) (posted : List (σ × Duration)) : Prop :=
  call.record.send.toNanos = (posted.map fun post => post.2.toNanos).sum

theorem Sent.keep {posted : List (σ × Duration)} (sent : Sent call posted)
    (same : next.record.send = call.record.send) : Sent next (posted ++ []) := by
  rw [List.append_nil, Sent, same]
  exact sent

theorem Sent.post {posted : List (σ × Duration)} (sent : Sent call posted) (response : σ)
    {elapsed : Duration}
    (added : next.record.send.toNanos = call.record.send.toNanos + elapsed.toNanos) :
    Sent next (posted ++ [(response, elapsed)]) := by
  simp [Sent, added, show call.record.send.toNanos = _ from sent]

theorem Step.sent {posted : List (σ × Duration)} (step : Step how capacity call action next)
    (fits : ¬ call.Overflows how capacity action) (sent : Sent call posted) :
    Sent next (posted ++ call.posts capacity action) := by
  cases step with
  | idle blocked =>
    rw [posts_blocked blocked]
    exact sent.keep rfl
  | skip receiving item skipped waiting =>
    exact sent.keep (Metrics.Record.addRecv_eq_ok waiting).2.2
  | process receiving item counts waiting processing =>
    have first := (Metrics.Record.addRecv_eq_ok waiting).2.2
    exact sent.keep ((Metrics.Record.addProcessing_eq_ok processing).2.2.trans first)
  | send flushing present room sending | sendLast flushing present room sending =>
    rw [posts_sent flushing present room]
    exact sent.post _ (Metrics.Record.addSend_eq_ok sending).1
  | disconnect flushing absent =>
    rw [posts_unattended absent]
    exact sent.keep rfl
  | overflowReceiving _ _ overflows => exact absurd overflows fits
  | overflowFinishing _ _ overflows => exact absurd overflows fits
  | overflowSending _ _ _ overflows => exact absurd overflows fits
  | _ => exact sent.keep rfl

/-! The summary. -/

theorem filter_dropLines (events : List Event) :
    (Event.dropLines events).filter (fun line => line.origin == .metrics) = [] := by
  simp only [Event.dropLines, List.filter_flatMap, List.flatMap_eq_nil_iff]
  intro event _
  cases event.observation <;> rfl

theorem filter_outcomeLines (outcome : Outcome) :
    outcome.lines.filter (fun line => line.origin == .metrics) = [] := by
  cases outcome <;> rfl

theorem filter_closingLines {r : Metrics.Record} {lines : List Log.Line}
    (closing : r.closingLines = .ok lines) :
    lines.filter (fun line => line.origin == .metrics) = lines := by
  rcases Metrics.Record.closingLines_eq_ok closing with ⟨_, rfl⟩ | ⟨_, _, total, _, rfl⟩ <;> rfl

/-- A call has the lines of its summary in the log once it has completed, and none before. -/
structure Summarized (call : Call ρ σ) : Prop where
  silent : call.outcome? ≠ some .completed → call.summaryLines = []
  closed : call.outcome? = some .completed → call.record.closingLines = .ok call.summaryLines

namespace Summarized

/-- A step that changes neither the record of a call that has completed nor its summary. -/
theorem keep (summarized : Summarized call)
    (outcome : next.outcome? = some .completed ↔ call.outcome? = some .completed)
    (record : call.outcome? = some .completed → next.record = call.record)
    {lines : List Log.Line} (log : next.log = call.log ++ lines)
    (other : lines.filter (fun line => line.origin == .metrics) = []) : Summarized next := by
  have same : next.summaryLines = call.summaryLines := by
    rw [summaryLines, log, List.filter_append, other, List.append_nil, summaryLines]
  refine ⟨fun unfinished => ?_, fun finished => ?_⟩
  · rw [same]
    exact summarized.silent (mt outcome.mpr unfinished)
  · have finished := outcome.mp finished
    rw [same, record finished]
    exact summarized.closed finished

/-- The step that closes the books. -/
theorem finish (summarized : Summarized call) (unfinished : call.outcome? ≠ some .completed)
    {lines : List Log.Line} (closing : next.record.closingLines = .ok lines)
    (log : next.log = call.log ++ lines) (outcome : next.outcome? = some .completed) :
    Summarized next := by
  refine ⟨fun never => absurd outcome never, fun _ => ?_⟩
  rw [closing, summaryLines, log, List.filter_append, filter_closingLines closing]
  rw [show call.log.filter _ = [] from summarized.silent unfinished, List.nil_append]

end Summarized

theorem Step.summarized (step : Step how capacity call action next)
    (fits : ¬ call.Overflows how capacity action) (summarized : Summarized call) :
    Summarized next := by
  have plain : call.log = call.log ++ [] := (List.append_nil _).symm
  cases step with
  | idle => exact summarized
  | fail receiving | skip receiving | flush receiving =>
    exact summarized.keep (by simp [outcome?, receiving]) (by simp [outcome?, receiving]) plain rfl
  | process receiving =>
    exact summarized.keep (by simp [outcome?, receiving]) (by simp [outcome?, receiving]) rfl
      (filter_dropLines _)
  | finish receiving ended responses closing =>
    exact summarized.finish (by simp [outcome?, receiving]) closing rfl rfl
  | send flushing | disconnect flushing =>
    exact summarized.keep (by simp [outcome?, flushing]) (by simp [outcome?, flushing]) plain rfl
  | sendLast flushing present room sending closing =>
    exact summarized.finish (by simp [outcome?, flushing]) closing rfl rfl
  | overflowReceiving _ _ overflows => exact absurd overflows fits
  | overflowFinishing _ _ overflows => exact absurd overflows fits
  | overflowSending _ _ _ overflows => exact absurd overflows fits
  | forward returned | close returned =>
    exact summarized.keep (by simp [outcome?, returned]) (fun _ => rfl) rfl (filter_outcomeLines _)
  | take | leave => exact summarized.keep .rfl (fun _ => rfl) plain rfl

/-! All books together. -/

/-- The books of a call are exact, in whatever way it has returned. -/
structure Accounts (how : Ingestion ρ σ) (processed : ρ → Bool) (count : List ρ → Nat)
    (arrivals : List (Except Status ρ)) (call : Call ρ σ) (seen : List (Look ρ))
    (posted : List (σ × Duration)) (sent : List (Except Status σ)) : Prop where
  /-- It returns well, or since the stream failed or the client left. -/
  sound : call.outcome? ≠ some .overflowed
  /-- By then it has looked at the stream request by request, to the end or the failure. -/
  found : call.outcome?.isSome → seen.map Look.item = finds arrivals
  recv : call.record.recv.toNanos = (seen.map Look.recv).sum
  processing : call.record.processing.toNanos = (seen.map (Look.processing processed)).sum
  /-- What was posted are the responses among what was sent, whatever became of them. -/
  accepted : posted.map Prod.fst = sent.filterMap Except.toOption
  send : call.record.send.toNanos = (posted.map fun post => post.2.toNanos).sum
  events : call.outcome?.isSome → call.record.events = .ofNat (count (requests arrivals))
  /-- One summary, of the books as they are, if there is something to sum up. -/
  summary : call.outcome? = some .completed → call.record.events ≠ 0 → call.record.nanos ≠ 0 →
    ∃ total, total.toNanos = call.record.nanos ∧ call.summaryLines =
      Metrics.Summary.lines ⟨call.record.service, call.record.events, total,
        call.record.processing, call.record.send, call.record.recv⟩
  silent : call.outcome? ≠ some .completed ∨ call.record.events = 0 ∨ call.record.nanos = 0 →
    call.summaryLines = []
  /-- By the time of the summary everything has been sent. -/
  whole : call.summaryLines ≠ [] → sent = (how.answer (requests arrivals)).map .ok
  /-- Nothing is sent behind it. -/
  last : call.summaryLines ≠ [] → ∀ capacity action, call.posts capacity action = []

theorem start_booked (service : String) (arrivals : List (Except Status ρ)) :
    Booked processed arrivals (start service arrivals : Call ρ σ) [] where
  recv := Duration.toNanos_zero
  processing := Duration.toNanos_zero
  going := fun _ => ⟨[], rfl, rfl⟩
  done := fun elsewhere => absurd rfl elsewhere

theorem start_sent (service : String) (arrivals : List (Except Status ρ)) :
    Sent (start service arrivals : Call ρ σ) [] :=
  Duration.toNanos_zero

theorem start_summarized (service : String) (arrivals : List (Except Status ρ)) :
    Summarized (start service arrivals : Call ρ σ) :=
  ⟨fun _ => rfl, fun finished => by cases finished⟩

/-- All calls in a mode keep exact books whose clock readings fit together: over all streams,
whatever the client does and however the steps of the two interleave. -/
def KeepsBooks (how : Ingestion ρ σ) (processed : ρ → Bool) (count : List ρ → Nat) : Prop :=
  ∀ (buffer : Nat) (service : String) (arrivals : List (Except Status ρ)) (schedule : List Action),
    spentBy how (Call.capacity buffer) schedule (start service arrivals) < Duration.limit →
    Accounts how processed count arrivals
      ((start service arrivals).execute how (Call.capacity buffer) schedule)
      (trace how (Call.capacity buffer) looks schedule (start service arrivals))
      (trace how (Call.capacity buffer) (posts (Call.capacity buffer)) schedule
        (start service arrivals))
      (sentBy how (Call.capacity buffer) schedule (start service arrivals))

theorem keepsBooks {count : List ρ → Nat}
    (weighed : ∀ request, processed request = (how.weight request).isSome)
    (counted : ∀ requests, count requests = how.weigh requests) :
    KeepsBooks how processed count := by
  intro buffer service arrivals schedule fits
  have within : (start service arrivals : Call ρ σ).record.nanos +
      spentBy how (Call.capacity buffer) schedule (start service arrivals) < Duration.limit := by
    rwa [start, Metrics.Record.nanos_start, Nat.zero_add]
  have sound := run_sound service arrivals schedule fits
  have delivery := run_delivery how buffer service arrivals schedule
  have booked := execute_within (Booked processed arrivals) (Step.booked weighed) schedule
    (start_booked service arrivals) within
  obtain ⟨sent, summarized⟩ := execute_within
    (fun call posted => Sent call posted ∧ Summarized call)
    (fun step fits kept => ⟨step.sent fits kept.1, step.summarized fits kept.2⟩) schedule
    ⟨start_sent service arrivals, start_summarized service arrivals⟩ within
  generalize (start service arrivals).execute how (Call.capacity buffer) schedule = call at *
  rw [List.nil_append] at booked sent
  have moved (returned : call.outcome?.isSome) : call.phase ≠ .receiving := by
    intro receiving
    simp [outcome?, receiving] at returned
  have finished (summed : call.summaryLines ≠ []) : call.outcome? = some .completed :=
    Classical.not_not.mp (mt summarized.silent summed)
  refine {
    sound := sound
    found := fun returned => booked.done (moved returned)
    recv := booked.recv
    processing := booked.processing
    accepted := (sentBy_posts schedule _).symm
    send := sent
    events := fun returned => ?_
    summary := fun completed events nanos => ?_
    silent := fun nothing => ?_
    whole := fun summed => (delivery.whole (finished summed)).2
    last := fun summed capacity action => posts_returned (finished summed) capacity action }
  · obtain ⟨received, _, all, gathered⟩ := delivery.gathered sound
    rw [counted, ← all (moved returned)]
    exact gathered.events
  · rcases Metrics.Record.closingLines_eq_ok (summarized.closed completed) with
      ⟨nothing, _⟩ | ⟨_, _, total, same, lines⟩
    · exact absurd nothing (not_or.mpr ⟨events, nanos⟩)
    · exact ⟨total, same, lines⟩
  · by_cases completed : call.outcome? = some .completed
    · rcases Metrics.Record.closingLines_eq_ok (summarized.closed completed) with
        ⟨_, lines⟩ | ⟨events, nanos, _⟩
      · exact lines
      · exact absurd nothing (by simp [completed, events, nanos])
    · exact summarized.silent completed

/-- Every request that brings one event or none counts as one. -/
theorem single_counts (order : KeyOrder) (requests : List SingleRequest) :
    requests.length = (Ingestion.single.inOrder order).weigh requests := by
  induction requests with
  | nil => rfl
  | cons request requests ih =>
    rw [Ingestion.weigh_cons, ← ih, List.length_cons, Nat.add_comm]
    rfl

/-- The books are exact in either mode. One event after the other, every request is processed and
counts as one; in batches, every one that is not empty is processed, and what counts are the
events in them. -/
theorem books_exact (order : KeyOrder) :
    KeepsBooks (Ingestion.single.inOrder order) (fun _ => true) List.length ∧
    KeepsBooks (Ingestion.batch.inOrder order) (fun events => !events.isEmpty)
      (fun batches => batches.flatten.length) := by
  refine ⟨keepsBooks (fun _ => rfl) (single_counts order), keepsBooks (fun events => ?_)
    (fun batches => (Ingestion.batch_weigh batches).symm)⟩
  cases events <;> rfl

/-- Three batches of which one is empty, and a client that takes the response; two requests, and
a client that leaves after the first of two responses. -/
theorem books_exact_around_gap :
    let click : EnrichedEvent := ⟨some ⟨"click", "", 10, 0, 0⟩, [], true⟩
    let view : EnrichedEvent := ⟨some ⟨"view", "", 5, 0, 1⟩, [], true⟩
    let batches : List BatchRequest := [[click, view], [], [click]]
    let requests : List SingleRequest := [some click, some view]
    let tick (nanos : Nat) (bound : nanos < Duration.nanosPerSecond) : Duration :=
      { seconds := 0, nanos := nanos, nanos_lt := bound }
    let look : Action := .receive (tick 2 (by decide)) (tick 3 (by decide))
    let post : Action := .send (tick 5 (by decide))
    let batch := (start "batch" (batches.map .ok)).execute (Ingestion.batch.inOrder .ascending)
      (Call.capacity 4) [look, look, look, look, post, .take, .close]
    let single := (start "single" (requests.map .ok)).execute
      (Ingestion.single.inOrder .ascending) (Call.capacity 0)
      [look, look, look, post, .leave, post, .close]
    (batch.outcome? = some .completed ∧ batch.record.recv.toNanos = 6 ∧
      batch.record.processing.toNanos = 6 ∧ batch.record.send.toNanos = 5 ∧
      batch.record.events = 3 ∧ batch.summaryLines.length = 2) ∧
    (single.outcome? = some .disconnected ∧ single.record.recv.toNanos = 4 ∧
      single.record.processing.toNanos = 6 ∧ single.record.send.toNanos = 5 ∧
      single.record.events = 2 ∧ single.summaryLines = []) := by
  intro click view batches requests tick look post batch single
  have first := (books_exact .ascending).2 4 "batch" (batches.map .ok)
    [look, look, look, look, post, .take, .close] (by decide +kernel)
  have second := (books_exact .ascending).1 0 "single" (requests.map .ok)
    [look, look, look, post, .leave, post, .close] (by decide +kernel)
  have completed : batch.outcome? = some .completed := by decide +kernel
  have disconnected : single.outcome? = some .disconnected := by decide +kernel
  obtain ⟨total, _, lines⟩ := first.summary completed (by decide +kernel) (by decide +kernel)
  refine ⟨⟨completed, first.recv.trans (by decide +kernel),
    first.processing.trans (by decide +kernel), first.send.trans (by decide +kernel),
    first.events (by decide +kernel), by rw [lines]; rfl⟩, disconnected,
    second.recv.trans (by decide +kernel), second.processing.trans (by decide +kernel),
    second.send.trans (by decide +kernel), second.events (by decide +kernel),
    second.silent (.inl (by rw [disconnected]; decide))⟩

end Call

end AggregateStage
