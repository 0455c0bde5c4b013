import AggregateStage.Proofs.Call.Progress

/-! Delivery of a call. A run is any interleaving of the call with a client that takes
messages or leaves; all of them deliver the flush of everything received, from its
beginning and in order, or the status that the stream failed with and nothing else. -/
namespace AggregateStage.Call

variable {ρ σ : Type} {how : Ingestion ρ σ} {capacity buffer : Nat}
  {arrivals : List (Except Status ρ)} {received : List ρ} {call : Call ρ σ} {status : Status}
  {sent : List (Except Status σ)}

/-- All or error. -/
structure Delivery (how : Ingestion ρ σ) (buffer : Nat) (arrivals : List (Except Status ρ))
    (call : Call ρ σ) (sent : List (Except Status σ)) : Prop where
  /-- What a call has observed and counted are the requests that it has read, in order, and
  all of them before it starts to flush; only an overflow leaves a request uncounted. -/
  gathered : call.outcome? ≠ some .overflowed → ∃ received, received <+: requests arrivals ∧
    (call.phase ≠ .receiving → received = requests arrivals) ∧ Gathered how received call
  /-- Nothing is sent while requests are still being received. -/
  quiet : call.phase = .receiving → sent = []
  /-- If the stream does not fail, what was sent begins the flush of everything received. -/
  begins : failure? arrivals = none → sent <+: (how.answer (requests arrivals)).map .ok
  /-- Until the client leaves, what it took and what is queued are what was sent, in order. -/
  intact : call.attended = true → call.taken ++ call.queue = sent
  /-- What a client took before it left was sent first. -/
  taken : call.taken <+: sent
  bounded : call.queue.length ≤ Call.capacity buffer
  /-- A call that ends well has sent the whole flush. -/
  whole : call.outcome? = some .completed →
    failure? arrivals = none ∧ sent = (how.answer (requests arrivals)).map .ok
  /-- Only a client that left cuts the flush short. -/
  left : call.outcome? = some .disconnected → call.attended = false ∧ failure? arrivals = none
  /-- A call reports a failure to receive only if its stream failed so. -/
  reported : ∀ status, call.outcome? = some (.receiveFailed status) →
    failure? arrivals = some status
  /-- After a failure of the stream no result is sent, only the status itself, and a client
  that listens when the call closes has it; the stream is read up to the failure only. -/
  failed : ∀ status, failure? arrivals = some status →
    (sent = [] ∨ sent = [.error status]) ∧
    (∀ outcome, call.outcome? = some outcome →
      outcome = .receiveFailed status ∨ outcome = .overflowed) ∧
    (call.phase = .closed (.receiveFailed status) → call.attended = true →
      sent = [.error status]) ∧
    ∃ after, arrivals = (requests arrivals).map .ok ++ .error status :: after ∧
      after <:+ call.arrivals

theorem split_of_failure (failed : failure? arrivals = some status) :
    ∃ after, arrivals = (requests arrivals).map .ok ++ .error status :: after := by
  induction arrivals with
  | nil => simp [failure?] at failed
  | cons item rest ih =>
    cases item with
    | error found =>
      simp only [failure?, Option.some.injEq] at failed
      exact ⟨rest, by simp [requests, failed]⟩
    | ok request =>
      obtain ⟨after, split⟩ := ih (by simpa [failure?] using failed)
      refine ⟨after, ?_⟩
      simp only [requests, List.map_cons, List.cons_append]
      rw [← split]

theorem unread_of_failure
    (stream : arrivals = received.map .ok ++ call.arrivals)
    (failed : failure? arrivals = some status) :
    ∃ after, arrivals = (requests arrivals).map .ok ++ .error status :: after ∧
      after <:+ call.arrivals := by
  have later : failure? call.arrivals = some status := by simpa [stream] using failed
  obtain ⟨after, split⟩ := split_of_failure later
  refine ⟨after, ?_, ⟨(requests call.arrivals).map .ok ++ [.error status], ?_⟩⟩
  · rw [stream, requests_append, List.map_append, List.append_assoc, ← split]
  · simpa using split.symm

/-- A call that has sent nothing and ended, if at all, by an overflow. -/
theorem delivery_of_quiet (channel : Channel (Call.capacity buffer) call sent)
    (gathered : call.outcome? ≠ some .overflowed → Gathered how received call)
    (stream : arrivals = received.map .ok ++ call.arrivals) (nothing : sent = [])
    (silent : call.phase = .receiving ∨ call.outcome? = some .overflowed) :
    Delivery how buffer arrivals call sent := by
  have ended : ∀ outcome, call.outcome? = some outcome → outcome = .overflowed := by
    rcases silent with receiving | overflowed
    · simp [outcome?, receiving]
    · simp [overflowed, eq_comm]
  exact {
    gathered := fun sound => ⟨received, by simp [stream], fun moved =>
      absurd silent (not_or.mpr ⟨moved, sound⟩), gathered sound⟩
    quiet := fun _ => nothing
    begins := fun _ => nothing ▸ List.nil_prefix
    intact := channel.intact
    taken := (List.prefix_append _ _).trans channel.held
    bounded := channel.bounded
    whole := fun good => by cases ended _ good
    left := fun gone => by cases ended _ gone
    reported := fun _ reported => by cases ended _ reported
    failed := by
      intro status failed
      refine ⟨.inl nothing, fun outcome found => .inr (ended outcome found), ?_,
        unread_of_failure stream failed⟩
      intro closed
      cases ended (.receiveFailed status) (by simp [outcome?, closed]) }

/-- A call whose stream has ended well. -/
theorem delivery_of_flush (channel : Channel (Call.capacity buffer) call sent)
    (gathered : call.outcome? ≠ some .overflowed → Gathered how received call)
    (stream : arrivals = received.map .ok) (moved : call.phase ≠ .receiving)
    (begins : sent <+: (how.answer received).map .ok)
    (whole : call.outcome? = some .completed → sent = (how.answer received).map .ok)
    (left : call.outcome? = some .disconnected → call.attended = false)
    (unfailed : ∀ status, call.outcome? ≠ some (.receiveFailed status)) :
    Delivery how buffer arrivals call sent where
  gathered := fun sound => ⟨received, by simp [stream], fun _ => by simp [stream], gathered sound⟩
  quiet := fun receiving => absurd receiving moved
  begins := fun _ => by simpa [stream] using begins
  intact := channel.intact
  taken := (List.prefix_append _ _).trans channel.held
  bounded := channel.bounded
  whole := fun good => ⟨by simp [stream], by simpa [stream] using whole good⟩
  left := fun gone => ⟨left gone, by simp [stream]⟩
  reported := fun status reported => absurd reported (unfailed status)
  failed := by
    intro status failed
    simp [stream] at failed

/-- A call whose stream has failed. -/
theorem delivery_of_failure (channel : Channel (Call.capacity buffer) call sent)
    (gathered : call.outcome? ≠ some .overflowed → Gathered how received call)
    (stream : arrivals = received.map .ok ++ .error status :: call.arrivals)
    (ended : call.outcome? = some (.receiveFailed status))
    (alone : sent = [] ∨ sent = [.error status])
    (forwarded : call.phase = .closed (.receiveFailed status) → call.attended = true →
      sent = [.error status]) : Delivery how buffer arrivals call sent where
  gathered := fun sound => ⟨received, by simp [stream], fun _ => by simp [stream, requests],
    gathered sound⟩
  quiet := fun receiving => by simp [outcome?, receiving] at ended
  begins := fun unfailed => by simp [stream, failure?] at unfailed
  intact := channel.intact
  taken := (List.prefix_append _ _).trans channel.held
  bounded := channel.bounded
  whole := fun good => by simp [ended] at good
  left := fun gone => by simp [ended] at gone
  reported := by
    intro found reported
    rw [ended] at reported
    cases reported
    simp [stream, failure?]
  failed := by
    intro found failed
    have same : status = found := by simpa [stream, failure?] using failed
    subst found
    refine ⟨alone, ?_, forwarded, call.arrivals, ?_, List.suffix_refl _⟩
    · intro outcome present
      rw [ended] at present
      exact .inl (Option.some.inj present).symm
    · rw [stream, requests_append]
      simp [requests]

theorem Invariant.delivery
    (valid : Invariant how (Call.capacity buffer) arrivals call sent) :
    Delivery how buffer arrivals call sent := by
  obtain ⟨⟨received, gathered, reached⟩, channel⟩ := valid
  have overflowed (ended : call.outcome? = some .overflowed)
      (stream : arrivals = received.map .ok ++ call.arrivals)
      (part : sent = [] ∨ call.arrivals = [] ∧ sent <+: (how.answer received).map .ok) :
      Delivery how buffer arrivals call sent := by
    rcases part with nothing | ⟨read, begins⟩
    · exact delivery_of_quiet channel gathered stream nothing (.inr ended)
    · rw [read, List.append_nil] at stream
      refine delivery_of_flush channel gathered stream ?_ begins (by simp [ended]) (by simp [ended])
        (by simp [ended])
      intro receiving
      simp [outcome?, receiving] at ended
  unfold Reached at reached
  split at reached <;> rename_i phase
  · exact delivery_of_quiet channel gathered reached.1 reached.2 (.inl phase)
  · obtain ⟨stream, _, _, split⟩ := reached
    exact delivery_of_flush channel gathered stream (by simp [phase]) ⟨_, split⟩
      (by simp [outcome?, phase]) (by simp [outcome?, phase]) (by simp [outcome?, phase])
  · obtain ⟨stream, whole⟩ := reached
    exact delivery_of_flush channel gathered stream (by simp [phase]) (whole ▸ List.prefix_refl _)
      (fun _ => whole) (by simp [outcome?, phase]) (by simp [outcome?, phase])
  · obtain ⟨stream, whole⟩ := reached
    exact delivery_of_flush channel gathered stream (by simp [phase]) (whole ▸ List.prefix_refl _)
      (fun _ => whole) (by simp [outcome?, phase]) (by simp [outcome?, phase])
  · obtain ⟨stream, nothing⟩ := reached
    exact delivery_of_failure channel gathered stream (by simp [outcome?, phase]) (.inl nothing)
      (by simp [phase])
  · obtain ⟨stream, forwarded⟩ := reached
    refine delivery_of_failure channel gathered stream (by simp [outcome?, phase])
      (forwarded.symm.imp_left And.left) fun _ present => forwarded.resolve_right ?_
    simp [present]
  · obtain ⟨stream, begins, absent⟩ := reached
    exact delivery_of_flush channel gathered stream (by simp [phase]) begins
      (by simp [outcome?, phase]) (fun _ => absent) (by simp [outcome?, phase])
  · obtain ⟨stream, begins, absent⟩ := reached
    exact delivery_of_flush channel gathered stream (by simp [phase]) begins
      (by simp [outcome?, phase]) (fun _ => absent) (by simp [outcome?, phase])
  · exact overflowed (by simp [outcome?, phase]) reached.1 reached.2
  · exact overflowed (by simp [outcome?, phase]) reached.1 reached.2

/-- Every interleaving delivers. -/
theorem run_delivery (how : Ingestion ρ σ) (buffer : Nat) (service : String)
    (arrivals : List (Except Status ρ)) (schedule : List Action) :
    Delivery how buffer arrivals
      ((start service arrivals).execute how (Call.capacity buffer) schedule)
      (sentBy how (Call.capacity buffer) schedule (start service arrivals)) :=
  (run_invariant (Nat.le_max_right buffer 1) service arrivals schedule).delivery

end AggregateStage.Call
