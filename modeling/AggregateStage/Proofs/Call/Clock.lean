import AggregateStage.Proofs.Call.Step

/-! The clock of a call. A run puts exactly its readings on record, so a call overflows
only when the readings together leave the range of a duration. -/
namespace AggregateStage.Call

variable {ρ σ : Type} {how : Ingestion ρ σ} {capacity : Nat} {call next : Call ρ σ}
  {action : Action} {waited processed elapsed : Duration} {request : ρ}
  {rest : List (Except Status ρ)} {response : σ} {remaining : List σ}

theorem timed_failed {status : Status} (receiving : call.phase = .receiving)
    (item : call.arrivals = .error status :: rest) :
    call.timed how capacity (.receive waited processed) = 0 := by
  simp only [timed, receiving, item]

theorem timed_skipped (receiving : call.phase = .receiving)
    (item : call.arrivals = .ok request :: rest) (skipped : how.weight request = none) :
    call.timed how capacity (.receive waited processed) = waited.toNanos := by
  simp [timed, receiving, item, skipped]

theorem timed_processed {size : Nat} (receiving : call.phase = .receiving)
    (item : call.arrivals = .ok request :: rest) (counts : how.weight request = some size) :
    call.timed how capacity (.receive waited processed) = waited.toNanos + processed.toNanos := by
  simp [timed, receiving, item, counts]

theorem timed_sent (flushing : call.phase = .flushing (response :: remaining))
    (present : call.attended = true) (room : call.queue.length < capacity) :
    call.timed how capacity (.send elapsed) = elapsed.toNanos := by
  simp [timed, flushing, present, hasRoom, room]

theorem timed_unattended (absent : call.attended = false) :
    call.timed how capacity (.send elapsed) = 0 := by
  simp only [timed, absent]
  split <;> rfl

theorem timed_blocked (blocked : ¬ call.Enabled capacity action) :
    call.timed how capacity action = 0 := by
  cases action with
  | receive waited processed =>
    have phase : call.phase ≠ .receiving := blocked
    simp only [timed]
    split <;> simp_all
  | send elapsed =>
    simp only [timed]
    split
    · rename_i response remaining flushing
      have full : ¬ (call.attended = true → call.queue.length < capacity) :=
        fun room => blocked ⟨response, remaining, flushing, room⟩
      obtain ⟨_, crowded⟩ := Classical.not_imp.mp full
      simp [hasRoom, crowded]
    · rfl
  | close => rfl
  | take => rfl
  | leave => rfl

theorem nanos_of_untimed (untimed : call.timed how capacity action = 0)
    (record : next.record = call.record) :
    next.record.nanos = call.record.nanos + call.timed how capacity action := by
  rw [record, untimed, Nat.add_zero]

/-- Until it overflows, a call puts every reading on record as it is. -/
theorem Step.clock (step : Step how capacity call action next)
    (fits : ¬ call.Overflows how capacity action) :
    next.record.nanos = call.record.nanos + call.timed how capacity action := by
  cases step with
  | idle blocked => exact nanos_of_untimed (timed_blocked blocked) rfl
  | fail receiving item => exact nanos_of_untimed (timed_failed receiving item) rfl
  | skip receiving item skipped waiting =>
    rw [timed_skipped receiving item skipped]
    exact Metrics.Record.nanos_apply (.recv _) waiting
  | process receiving item counts waiting processing =>
    have first := Metrics.Record.nanos_apply (.recv _) waiting
    have second := Metrics.Record.nanos_apply (.processing _ _) processing
    rw [timed_processed receiving item counts, ← Nat.add_assoc]
    rwa [first] at second
  | flush receiving ended => exact nanos_of_untimed (timed_ended call receiving ended) rfl
  | finish receiving ended => exact nanos_of_untimed (timed_ended call receiving ended) rfl
  | send flushing present room sending =>
    rw [timed_sent flushing present room]
    exact Metrics.Record.nanos_apply (.send _) sending
  | sendLast flushing present room sending =>
    rw [timed_sent flushing present room]
    exact Metrics.Record.nanos_apply (.send _) sending
  | disconnect flushing absent => exact nanos_of_untimed (timed_unattended absent) rfl
  | overflowReceiving _ _ overflows => exact absurd overflows fits
  | overflowFinishing _ _ overflows => exact absurd overflows fits
  | overflowSending _ _ _ overflows => exact absurd overflows fits
  | forward => exact nanos_of_untimed rfl rfl
  | close => exact nanos_of_untimed rfl rfl
  | take => exact nanos_of_untimed rfl rfl
  | leave => exact nanos_of_untimed rfl rfl

theorem Step.sound (step : Step how capacity call action next)
    (sound : call.outcome? ≠ some .overflowed) (fits : ¬ call.Overflows how capacity action) :
    next.outcome? ≠ some .overflowed := by
  cases step with
  | overflowReceiving _ _ overflows => exact absurd overflows fits
  | overflowFinishing _ _ overflows => exact absurd overflows fits
  | overflowSending _ _ _ overflows => exact absurd overflows fits
  | close returned => simpa [outcome?, returned] using sound
  | idle => exact sound
  | take => exact sound
  | leave => exact sound
  | skip receiving => simp [outcome?, receiving]
  | process receiving => simp [outcome?, receiving]
  | _ => simp [outcome?]

/-- The record holds the time spent so far. -/
structure Clocked (call : Call ρ σ) (readings : List Nat) : Prop where
  sound : call.outcome? ≠ some .overflowed
  nanos : call.record.nanos = readings.sum

theorem start_clocked (service : String) (arrivals : List (Except Status ρ)) :
    Clocked (start service arrivals : Call ρ σ) [] where
  sound := by simp [outcome?, start]
  nanos := Metrics.Record.nanos_start service

theorem advance_clocked (readings : List Nat) (clocked : Clocked call readings)
    (fits : (readings ++ [call.timed how capacity action]).sum < Duration.limit) :
    Clocked (call.advance how capacity action) (readings ++ [call.timed how capacity action]) := by
  rw [List.sum_append, List.sum_singleton, ← clocked.nanos] at fits
  have step : Step how capacity call action _ := advance_step call action
  have within : ¬ call.Overflows how capacity action := Nat.not_le_of_lt fits
  refine ⟨step.sound clocked.sound within, ?_⟩
  rw [step.clock within, clocked.nanos, List.sum_append, List.sum_singleton]

/-- A run whose readings fit together does not overflow. -/
theorem run_sound (service : String) (arrivals : List (Except Status ρ)) (schedule : List Action)
    (fits : spentBy how capacity schedule (start service arrivals) < Duration.limit) :
    ((start service arrivals).execute how capacity schedule).outcome? ≠ some .overflowed := by
  have preserved (call : Call ρ σ) (seen : List Nat) (action : Action)
      (valid : seen.sum < Duration.limit → Clocked call seen)
      (bound : (seen ++ [call.timed how capacity action]).sum < Duration.limit) :
      Clocked (call.advance how capacity action) (seen ++ [call.timed how capacity action]) := by
    have before : seen.sum ≤ (seen ++ [call.timed how capacity action]).sum := by simp
    exact advance_clocked seen (valid (Nat.lt_of_le_of_lt before bound)) bound
  have result := execute_invariant (fun call seen => seen.sum < Duration.limit → Clocked call seen)
    preserved schedule (start service arrivals) [] (fun _ => start_clocked service arrivals)
  exact (result fits).sound

/-- A schedule with readings that fit begins with a step that does not overflow, and those of
the rest fit behind it. -/
theorem fits_later {schedule : List Action}
    (fits : call.record.nanos + spentBy how capacity (action :: schedule) call < Duration.limit) :
    ¬ call.Overflows how capacity action ∧
    (call.advance how capacity action).record.nanos +
      spentBy how capacity schedule (call.advance how capacity action) < Duration.limit := by
  have step : Step how capacity call action _ := call.advance_step action
  simp only [spentBy, trace, List.sum_append, List.sum_singleton] at fits
  have within : ¬ call.Overflows how capacity action := by
    simp only [Overflows]
    omega
  refine ⟨within, ?_⟩
  rw [step.clock within, spentBy]
  omega

/-- What every step keeps that does not overflow is kept by every run with readings that fit. -/
theorem execute_within {α : Type} {label : Call ρ σ → Action → List α}
    (property : Call ρ σ → List α → Prop)
    (preserved : ∀ {call next : Call ρ σ} {seen : List α} {action : Action},
      Step how capacity call action next → ¬ call.Overflows how capacity action →
      property call seen → property next (seen ++ label call action))
    (schedule : List Action) {call : Call ρ σ} {seen : List α} (valid : property call seen)
    (fits : call.record.nanos + spentBy how capacity schedule call < Duration.limit) :
    property (call.execute how capacity schedule)
      (seen ++ trace how capacity label schedule call) := by
  induction schedule generalizing call seen with
  | nil => simpa [trace, execute] using valid
  | cons action schedule ih =>
    obtain ⟨within, rest⟩ := fits_later fits
    have later := ih (preserved (call.advance_step action) within valid) rest
    simpa [trace, execute] using later

end AggregateStage.Call
