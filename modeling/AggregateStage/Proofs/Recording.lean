import AggregateStage.Metrics.Record

/-! Durations as whole numbers of nanoseconds. Recording a reading adds it exactly, and
fails only when the time on record and the reading together leave the range. -/
namespace AggregateStage

namespace Duration

/-- The nanoseconds at which the range of durations ends. -/
def limit : Nat := secondsLimit * nanosPerSecond

/-- Carrying is exact, and fails exactly beyond the range. -/
theorem ofParts?_toNanos (seconds nanos : Nat) :
    (∃ d, ofParts? seconds nanos = some d ∧ d.toNanos = seconds * nanosPerSecond + nanos) ∨
    (ofParts? seconds nanos = none ∧ limit ≤ seconds * nanosPerSecond + nanos) := by
  have carried := Nat.div_add_mod nanos nanosPerSecond
  by_cases fits : seconds + nanos / nanosPerSecond < secondsLimit
  · refine .inl ⟨_, dif_pos fits, ?_⟩
    simp only [toNanos, nanosPerSecond] at carried ⊢
    omega
  · refine .inr ⟨dif_neg fits, ?_⟩
    simp only [limit, nanosPerSecond] at carried fits ⊢
    omega

theorem add?_eq_some {a b d : Duration} (added : a.add? b = some d) :
    d.toNanos = a.toNanos + b.toNanos := by
  have parts := ofParts?_toNanos (a.seconds + b.seconds) (a.nanos + b.nanos)
  rw [← add?, added] at parts
  rcases parts with ⟨e, equal, nanos⟩ | ⟨impossible, _⟩
  · cases equal
    rw [nanos, toNanos, toNanos, Nat.add_mul]
    omega
  · contradiction

theorem add?_eq_none {a b : Duration} (failed : a.add? b = none) :
    limit ≤ a.toNanos + b.toNanos := by
  have parts := ofParts?_toNanos (a.seconds + b.seconds) (a.nanos + b.nanos)
  rw [← add?, failed] at parts
  rcases parts with ⟨e, impossible, _⟩ | ⟨_, beyond⟩
  · contradiction
  · rw [Nat.add_mul] at beyond
    simp only [toNanos]
    omega

@[simp] theorem toNanos_zero : zero.toNanos = 0 := rfl

theorem isZero_iff (d : Duration) : d.isZero = true ↔ d.toNanos = 0 := by
  simp only [isZero, toNanos, nanosPerSecond, Bool.and_eq_true, beq_iff_eq]
  omega

theorem toNanos_lt_limit (d : Duration) : d.toNanos < limit := by
  have seconds := d.seconds_lt
  have nanos := d.nanos_lt
  simp only [toNanos, limit, nanosPerSecond] at nanos ⊢
  omega

end Duration

namespace Metrics

theorem sum_eq_ok {a b d : Duration} : sum a b = .ok d ↔ a.add? b = some d := by
  unfold sum
  cases a.add? b <;> simp

theorem sum_eq_error {a b : Duration} {fault : Fault} (failed : sum a b = .error fault) :
    Duration.limit ≤ a.toNanos + b.toNanos := by
  apply Duration.add?_eq_none
  unfold sum at failed
  cases added : a.add? b <;> simp_all

/-- Every recording operation puts a sum into a field of the record. -/
theorem record_eq_ok {α : Type} {a b : Duration} {put : Duration → α} {next : α}
    (recorded : (do return put (← sum a b)) = (.ok next : Except Fault α)) :
    ∃ total, a.add? b = some total ∧ next = put total := by
  cases added : sum a b with
  | ok total =>
    simp only [added, bind, Except.bind, pure, Except.pure, Except.ok.injEq] at recorded
    exact ⟨total, sum_eq_ok.mp added, recorded.symm⟩
  | error fault => simp [added, bind, Except.bind] at recorded

theorem record_eq_error {α : Type} {a b : Duration} {put : Duration → α} {fault : Fault}
    (failed : (do return put (← sum a b)) = (.error fault : Except Fault α)) :
    Duration.limit ≤ a.toNanos + b.toNanos := by
  cases added : sum a b with
  | ok total => simp [added, bind, Except.bind, pure, Except.pure] at failed
  | error fault => exact sum_eq_error added

/-- The reading that an operation records. -/
def Recording.elapsed : Recording → Duration
  | .recv elapsed | .processing elapsed _ | .send elapsed => elapsed

/-- The events that an operation counts. -/
def Recording.count : Recording → UInt64
  | .processing _ count => count
  | .recv _ | .send _ => 0

namespace Record

variable {r next : Record} {fault : Fault}

/-- All the time on record. -/
def nanos (r : Record) : Nat := r.processing.toNanos + r.send.toNanos + r.recv.toNanos

theorem nanos_start (service : String) : (start service).nanos = 0 := by
  have processing : (start service).processing = .zero := rfl
  have send : (start service).send = .zero := rfl
  have recv : (start service).recv = .zero := rfl
  rw [nanos, processing, send, recv, Duration.toNanos_zero]

theorem nanos_apply (recording : Recording) (added : r.apply recording = .ok next) :
    next.nanos = r.nanos + recording.elapsed.toNanos := by
  cases recording
  all_goals
    obtain ⟨total, exact, rfl⟩ := record_eq_ok added
    simp only [nanos, Recording.elapsed, Duration.add?_eq_some exact]
    omega

theorem events_apply (recording : Recording) (added : r.apply recording = .ok next) :
    next.events = r.events + recording.count := by
  cases recording
  all_goals
    obtain ⟨total, _, rfl⟩ := record_eq_ok added
    simp [Recording.count]

theorem apply_eq_error (recording : Recording) (failed : r.apply recording = .error fault) :
    Duration.limit ≤ r.nanos + recording.elapsed.toNanos := by
  cases recording
  all_goals
    have beyond := record_eq_error failed
    simp only [nanos, Recording.elapsed]
    omega

/-- The total of the closing summary is formed whether there is to be one or not. -/
theorem summary_cases (r : Record) :
    (Duration.limit ≤ r.nanos ∧ r.summary = .error .overflow) ∨
    ∃ total, total.toNanos = r.nanos ∧ r.summary = .ok (if r.events = 0 ∨ r.nanos = 0 then none
      else some ⟨r.service, r.events, total, r.processing, r.send, r.recv⟩) := by
  unfold summary
  cases first : sum r.processing r.send with
  | error fault =>
    have beyond := sum_eq_error first
    refine .inl ⟨?_, rfl⟩
    simp only [nanos]
    omega
  | ok subtotal =>
    have firstExact := Duration.add?_eq_some (sum_eq_ok.mp first)
    simp only [bind, Except.bind]
    cases second : sum subtotal r.recv with
    | error fault =>
      have beyond := sum_eq_error second
      refine .inl ⟨?_, rfl⟩
      simp only [nanos]
      omega
    | ok total =>
      have secondExact := Duration.add?_eq_some (sum_eq_ok.mp second)
      have exact : total.toNanos = r.nanos := by
        rw [secondExact, firstExact, nanos]
      refine .inr ⟨total, exact, ?_⟩
      simp only [Duration.isZero_iff, exact, pure, Except.pure]
      split <;> rfl

theorem summary_eq_error (failed : r.summary = .error fault) : Duration.limit ≤ r.nanos := by
  rcases r.summary_cases with ⟨beyond, _⟩ | ⟨total, _, formed⟩
  · exact beyond
  · rw [formed] at failed
    contradiction

/-- The close forms the grand total and can fail there only. -/
theorem closingLines_eq_error (failed : r.closingLines = .error fault) :
    Duration.limit ≤ r.nanos := by
  unfold closingLines at failed
  cases formed : r.summary with
  | error fault => exact summary_eq_error formed
  | ok summary =>
    rw [formed] at failed
    cases summary <;> contradiction

end Record

end Metrics

end AggregateStage
