import AggregateStage.Proofs.Call.Clock
import AggregateStage.Proofs.Call.Invariant

/-! Progress of a call. When the call and a client that keeps reading are both scheduled
again and again and the clock readings fit, the call closes and the client has it all. -/
namespace AggregateStage.Call

variable {ρ σ : Type} {how : Ingestion ρ σ} {capacity : Nat} {arrivals : List (Except Status ρ)}
  {call next : Call ρ σ} {action : Action} {service : String}

/-- What is left to do, where the flush has at most the given number of responses. A send
moves a message into the queue and weighs more than the message there. -/
def load (total : Nat) (call : Call ρ σ) : Nat :=
  call.queue.length + match call.phase with
    | .receiving => call.arrivals.length + 2 * total + 4
    | .flushing remaining => 2 * remaining.length + 3
    | .returned _ => 2
    | .closed _ => 0

/-- Every step of the call or of a client that stays does some of the work or is blocked. -/
theorem Step.load_lt {total : Nat} (step : Step how capacity call action next)
    (stays : action ≠ .leave) (bound : call.phase = .receiving → call.arrivals = [] →
      (how.responses (call.accumulator.flushIn how.order)).length ≤ total) :
    load total next < load total call ∨ (next = call ∧ ¬ call.Enabled capacity action) := by
  cases step with
  | idle blocked => exact .inr ⟨rfl, blocked⟩
  | leave => exact absurd rfl stays
  | flush receiving ended responses =>
    have short := bound receiving ended
    rw [responses] at short
    left
    simp only [load, receiving, ended, List.length_cons] at short ⊢
    omega
  | fail receiving item => left; simp only [load, receiving]; omega
  | skip receiving item => left; simp [load, receiving, item]
  | process receiving item => left; simp [load, receiving, item]
  | finish receiving => left; simp only [load, receiving]; omega
  | send flushing => left; simp [load, flushing]; omega
  | sendLast flushing => left; simp [load, flushing]
  | disconnect flushing => left; simp [load, flushing]
  | overflowReceiving receiving => left; simp only [load, receiving]; omega
  | overflowFinishing receiving => left; simp only [load, receiving]; omega
  | overflowSending flushing => left; simp [load, flushing]; omega
  | forward returned => left; simp [load, returned]
  | close returned => left; simp [load, returned]
  | take waiting => left; simp [load, waiting]

/-- An endless run in which the call is scheduled again and again, and the client never leaves
and always takes again. The readings are spans of one clock that do not overlap, so the time
that they come to is one that the clock can show. -/
structure FairRun (how : Ingestion ρ σ) (capacity : Nat) (first : Call ρ σ) where
  action : Nat → Action
  stays : ∀ n, action n ≠ .leave
  receives : ∀ n, ∃ m, n ≤ m ∧ ∃ waited processed, action m = .receive waited processed
  sends : ∀ n, ∃ m, n ≤ m ∧ ∃ elapsed, action m = .send elapsed
  closes : ∀ n, ∃ m, n ≤ m ∧ action m = .close
  takes : ∀ n, ∃ m, n ≤ m ∧ action m = .take
  fits : ∀ n, spentBy how capacity ((List.range n).map action) first < Duration.limit

/-- The call after a number of steps. -/
def FairRun.state {first : Call ρ σ} (run : FairRun how capacity first) (n : Nat) : Call ρ σ :=
  first.execute how capacity ((List.range n).map run.action)

theorem FairRun.state_succ {first : Call ρ σ} (run : FairRun how capacity first) (n : Nat) :
    run.state (n + 1) = (run.state n).advance how capacity (run.action n) := by
  simp [state, execute, List.range_succ]

theorem FairRun.step {first : Call ρ σ} (run : FairRun how capacity first) (n : Nat) :
    Step how capacity (run.state n) (run.action n) (run.state (n + 1)) := by
  rw [run.state_succ]
  exact advance_step (run.state n) (run.action n)

theorem FairRun.attended {first : Call ρ σ} (run : FairRun how capacity first)
    (present : first.attended = true) (n : Nat) : (run.state n).attended = true := by
  induction n with
  | zero => exact present
  | succ n ih =>
    rcases (run.step n).traffic with ⟨_, _, same⟩ | ⟨_, _, _, _, _, same⟩ | ⟨_, _, _, same⟩ |
      ⟨gone, _⟩
    · exact same.trans ih
    · exact same
    · exact same.trans ih
    · exact absurd gone (run.stays n)

theorem FairRun.invariant (run : FairRun how capacity (start service arrivals))
    (positive : 0 < capacity) (n : Nat) :
    ∃ sent, Invariant how capacity arrivals (run.state n) sent :=
  ⟨_, run_invariant positive service arrivals _⟩

/-- The work that is left after a number of steps. -/
def FairRun.left (run : FairRun how capacity (start service arrivals)) (n : Nat) : Nat :=
  load (how.answer (requests arrivals)).length (run.state n)

theorem FairRun.left_succ (run : FairRun how capacity (start service arrivals))
    (positive : 0 < capacity) (n : Nat) :
    run.left (n + 1) < run.left n ∨
    (run.state (n + 1) = run.state n ∧ ¬ (run.state n).Enabled capacity (run.action n)) := by
  obtain ⟨sent, valid⟩ := run.invariant positive n
  refine (run.step n).load_lt (run.stays n) ?_
  intro receiving ended
  obtain ⟨received, gathered, reached⟩ := valid.stage
  simp only [Reached, receiving, ended, List.append_nil] at reached
  have accumulator := (gathered (by simp [outcome?, receiving])).accumulator
  rw [accumulator, reached.1, requests_map]
  exact Nat.le_refl _

/-- While there is work left, a step comes that can do some of it. -/
theorem FairRun.attends (run : FairRun how capacity (start service arrivals))
    (positive : 0 < capacity) (n : Nat) (busy : 0 < run.left n) :
    ∃ m, n ≤ m ∧ (run.state n).Enabled capacity (run.action m) := by
  by_cases waiting : (run.state n).queue = []
  · obtain ⟨sent, valid⟩ := run.invariant positive n
    obtain ⟨received, _, reached⟩ := valid.stage
    cases phase : (run.state n).phase with
    | receiving =>
      obtain ⟨m, later, waited, processed, turn⟩ := run.receives n
      exact ⟨m, later, by simpa [turn, Enabled] using phase⟩
    | flushing remaining =>
      simp only [Reached, phase] at reached
      obtain ⟨response, rest, rfl⟩ := List.exists_cons_of_ne_nil reached.2.2.1
      obtain ⟨m, later, elapsed, turn⟩ := run.sends n
      exact ⟨m, later, by simpa [turn, Enabled, waiting, phase] using fun _ => positive⟩
    | returned outcome =>
      obtain ⟨m, later, turn⟩ := run.closes n
      exact ⟨m, later, by simp [turn, Enabled, phase]⟩
    | closed outcome => simp [left, load, waiting, phase] at busy
  · obtain ⟨m, later, turn⟩ := run.takes n
    exact ⟨m, later, by simpa [turn, Enabled] using waiting⟩

/-- Until some work is done, nothing changes. -/
theorem FairRun.waits (run : FairRun how capacity (start service arrivals))
    (positive : 0 < capacity) {n m : Nat} (later : n ≤ m) :
    run.state m = run.state n ∨ ∃ k, n ≤ k ∧ run.left k < run.left n := by
  induction later with
  | refl => exact .inl rfl
  | @step m later ih =>
    rcases ih with same | done
    · rcases run.left_succ positive m with less | ⟨idle, _⟩
      · refine .inr ⟨m + 1, Nat.le_succ_of_le later, ?_⟩
        rwa [left, left, same] at less
      · exact .inl (idle.trans same)
    · exact .inr done

theorem FairRun.left_lt (run : FairRun how capacity (start service arrivals))
    (positive : 0 < capacity) (n : Nat) (busy : 0 < run.left n) :
    ∃ m, n ≤ m ∧ run.left m < run.left n := by
  obtain ⟨m, later, enabled⟩ := run.attends positive n busy
  rcases run.waits positive later with same | done
  · rcases run.left_succ positive m with less | ⟨_, blocked⟩
    · refine ⟨m + 1, Nat.le_succ_of_le later, ?_⟩
      rwa [left, left, same] at less
    · rw [same] at blocked
      exact absurd enabled blocked
  · exact done

theorem FairRun.left_antitone (run : FairRun how capacity (start service arrivals))
    (positive : 0 < capacity) {n m : Nat} (later : n ≤ m) : run.left m ≤ run.left n := by
  induction later with
  | refl => exact Nat.le_refl _
  | @step m _ ih =>
    rcases run.left_succ positive m with less | ⟨idle, _⟩
    · exact Nat.le_trans (Nat.le_of_lt less) ih
    · rw [left, idle]
      exact ih

/-- All the work is done after some step. -/
theorem FairRun.left_eq_zero (run : FairRun how capacity (start service arrivals))
    (positive : 0 < capacity) : ∃ n, ∀ m, n ≤ m → run.left m = 0 := by
  have drained : ∀ size n, run.left n = size → ∃ m, run.left m = 0 := by
    intro size
    induction size using Nat.strongRecOn with
    | ind size ih =>
      intro n same
      by_cases done : run.left n = 0
      · exact ⟨n, done⟩
      · obtain ⟨m, _, less⟩ := run.left_lt positive n (Nat.pos_of_ne_zero done)
        exact ih (run.left m) (same ▸ less) m rfl
  obtain ⟨n, done⟩ := drained (run.left 0) 0 rfl
  refine ⟨n, fun m later => ?_⟩
  have less := run.left_antitone positive later
  omega

/-- The call has closed and its client has taken all there was. -/
structure Settled (how : Ingestion ρ σ) (arrivals : List (Except Status ρ)) (call : Call ρ σ) :
    Prop where
  drained : call.queue = []
  completed : failure? arrivals = none → call.phase = .closed .completed ∧
    call.taken = (how.answer (requests arrivals)).map .ok ∧
    call.record.events = .ofNat (how.weigh (requests arrivals))
  failed : ∀ status, failure? arrivals = some status →
    call.phase = .closed (.receiveFailed status) ∧ call.taken = [.error status]

/-- A closed call with a client that stayed and took everything is settled. -/
theorem Invariant.settled {outcome : Outcome} {sent : List (Except Status σ)}
    (valid : Invariant how capacity arrivals call sent) (closed : call.phase = .closed outcome)
    (drained : call.queue = []) (present : call.attended = true)
    (sound : outcome ≠ .overflowed) : Settled how arrivals call := by
  have whole : call.taken = sent := by
    simpa [delivered, drained] using valid.channel.intact present
  obtain ⟨received, gathered, reached⟩ := valid.stage
  cases outcome with
  | completed =>
    simp only [Reached, closed] at reached
    obtain ⟨rfl, all⟩ := reached
    have events := (gathered (by simp [outcome?, closed])).events
    refine ⟨drained, fun _ => ⟨closed, ?_, ?_⟩, by simp⟩
    · rw [whole, all, requests_map]
    · rw [events, requests_map]
  | receiveFailed status =>
    simp only [Reached, closed, present] at reached
    obtain ⟨stream, forwarded⟩ := reached
    have failure : failure? arrivals = some status := by simp [stream, failure?]
    refine ⟨drained, by simp [failure], ?_⟩
    intro found failed
    rw [failure, Option.some.injEq] at failed
    subst failed
    exact ⟨closed, by simpa [whole] using forwarded⟩
  | disconnected =>
    simp only [Reached, closed, present] at reached
    exact absurd reached.2.2 (by decide)
  | overflowed => exact absurd rfl sound

/-- Every fair run settles and stays so. -/
theorem FairRun.settles (run : FairRun how capacity (start service arrivals))
    (positive : 0 < capacity) : ∃ n, ∀ m, n ≤ m → Settled how arrivals (run.state m) := by
  obtain ⟨n, done⟩ := run.left_eq_zero positive
  refine ⟨n, fun m later => ?_⟩
  have empty := done m later
  obtain ⟨sent, valid⟩ := run.invariant positive m
  have present := run.attended rfl m
  have sound : (run.state m).outcome? ≠ some .overflowed :=
    run_sound service arrivals _ (run.fits m)
  cases phase : (run.state m).phase with
  | closed outcome =>
    have drained : (run.state m).queue = [] := by simpa [left, load, phase] using empty
    refine valid.settled phase drained present ?_
    rintro rfl
    exact sound (by simp [outcome?, phase])
  | _ => simp [left, load, phase] at empty

theorem spentBy_eq_zero {schedule : List Action}
    (instant : ∀ action ∈ schedule, ∀ call : Call ρ σ, call.timed how capacity action = 0)
    (call : Call ρ σ) : spentBy how capacity schedule call = 0 := by
  induction schedule generalizing call with
  | nil => rfl
  | cons action schedule ih =>
    have first := instant action (List.mem_cons_self ..) call
    have later := ih (fun action member => instant action (List.mem_cons_of_mem _ member))
      (call.advance how capacity action)
    simp only [spentBy] at later
    simp [spentBy, trace, first, later]

/-- The call and its client take turns, and the clock stands still. -/
def turn (n : Nat) : Action :=
  match n % 4 with
  | 0 => .receive .zero .zero
  | 1 => .send .zero
  | 2 => .close
  | _ => .take

theorem timed_turn (call : Call ρ σ) (n : Nat) : call.timed how capacity (turn n) = 0 := by
  unfold turn
  split
  · simp only [timed, Duration.toNanos_zero]
    split <;> simp
  · simp only [timed, Duration.toNanos_zero]
    split <;> simp
  · rfl
  · rfl

/-- The run in which everyone takes turns. -/
def FairRun.inTurns (how : Ingestion ρ σ) (capacity : Nat) (first : Call ρ σ) :
    FairRun how capacity first where
  action := turn
  stays := by
    intro n
    unfold turn
    split <;> simp
  receives := fun n => ⟨4 * n, by omega, .zero, .zero, by simp [turn]⟩
  sends := fun n => ⟨4 * n + 1, by omega, .zero, by simp [turn]⟩
  closes := fun n => ⟨4 * n + 2, by omega, by simp [turn]⟩
  takes := fun n => ⟨4 * n + 3, by omega, by simp [turn]⟩
  fits := by
    intro n
    rw [spentBy_eq_zero]
    · decide
    · intro action member call
      obtain ⟨k, _, rfl⟩ := List.mem_map.mp member
      exact timed_turn call k

end AggregateStage.Call
