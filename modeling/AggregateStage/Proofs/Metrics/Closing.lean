import AggregateStage.Proofs.Metrics.Exactness

/-! The close of a record. The grand total of the three phases is formed before anything else,
and it may leave the range of durations although each phase is within it. -/
namespace AggregateStage.Metrics

/-- The nanoseconds that operations record of all phases together. -/
def totalOf (recordings : List Recording) : Nat :=
  nanosOf .processing recordings + nanosOf .send recordings + nanosOf .recv recordings

theorem totalOf_eq_zero_iff (recordings : List Recording) :
    totalOf recordings = 0 ↔ ∀ phase, nanosOf phase recordings = 0 := by
  constructor
  · intro none phase
    simp only [totalOf] at none
    cases phase <;> omega
  · intro none
    simp [totalOf, none]

namespace Record

variable {r : Record} {service : String} {taken : List Recording}

theorem Exact.nanos (exact : Exact service taken r) : r.nanos = totalOf taken := by
  simp only [Record.nanos, totalOf, ← exact.time]
  rfl

theorem summary_eq_error_iff :
    r.summary = .error .overflow ↔ Duration.largest.toNanos < r.nanos := by
  rcases r.summary_cases with ⟨beyond, failed⟩ | ⟨total, sum, formed⟩
  · rw [Duration.limit_eq] at beyond
    simp only [failed, true_iff]
    omega
  · have bound := total.toNanos_lt_limit
    rw [sum, Duration.limit_eq] at bound
    simp only [formed, reduceCtorEq, false_iff]
    omega

theorem closingLines_eq {closing : Option Summary} (formed : r.summary = .ok closing) :
    r.closingLines = .ok (closing.elim [] Summary.lines) := by
  rw [closingLines, formed]
  cases closing <;> rfl

theorem closingLines_eq_error_iff :
    r.closingLines = .error .overflow ↔ r.summary = .error .overflow := by
  unfold closingLines
  cases r.summary with
  | error fault => simp [bind, Except.bind]
  | ok closing => cases closing <;> simp [bind, Except.bind, pure, Except.pure]

/-- The close fails exactly when all the time on record exceeds the largest duration, also when
there is nothing to report. Otherwise it reports nothing exactly when there was no event or no
time, and else the exact total and what is on record. -/
theorem closes_unless_total_overflows (service : String) (recordings : List Recording)
    (fits : countOf recordings < 2 ^ 64) :
    let r := (start service).run recordings
    let taken := (start service).accepted recordings
    (r.summary = .error .overflow ↔ Duration.largest.toNanos < totalOf taken) ∧
    (r.closingLines = .error .overflow ↔ Duration.largest.toNanos < totalOf taken) ∧
    (totalOf taken ≤ Duration.largest.toNanos → ∃ closing, r.summary = .ok closing ∧
      r.closingLines = .ok (closing.elim [] Summary.lines) ∧
      (closing = none ↔ countOf taken = 0 ∨ ∀ phase, nanosOf phase taken = 0) ∧
      ∀ s, closing = some s → s.total.toNanos = totalOf taken ∧
        s = ⟨service, r.events, s.total, r.processing, r.send, r.recv⟩) := by
  intro r taken
  have exact : Exact service taken r := run_exact service recordings
  have events : r.events.toNat = countOf taken :=
    exact.events_toNat (accepted_sublist _ recordings) fits
  have silent : (r.events = 0 ∨ r.nanos = 0) ↔
      countOf taken = 0 ∨ ∀ phase, nanosOf phase taken = 0 := by
    rw [exact.nanos, totalOf_eq_zero_iff, ← events, ← UInt64.toNat_inj]
    rfl
  rw [closingLines_eq_error_iff, summary_eq_error_iff, exact.nanos]
  refine ⟨Iff.rfl, Iff.rfl, fun within => ?_⟩
  rcases r.summary_cases with ⟨beyond, _⟩ | ⟨total, sum, formed⟩
  · rw [exact.nanos, Duration.limit_eq] at beyond
    omega
  · refine ⟨_, formed, closingLines_eq formed, ?_, ?_⟩
    · rw [← silent, ite_eq_left_iff]
      simp only [reduceCtorEq, imp_false, Decidable.not_not]
    · intro s summarized
      split at summarized
      · contradiction
      · cases summarized
        exact ⟨sum.trans exact.nanos, by rw [exact.service]⟩

/-- A call that took as long as a duration can be still closes with a summary. -/
theorem closes_at_the_largest_total :
    let recordings : List Recording := [.processing { seconds := 1, nanos := 1 } 3,
      .recv { seconds := 18446744073709551614, nanos := 999999998 }]
    let r := (start "aggregate-service").run recordings
    countOf recordings < 2 ^ 64 ∧
    ∃ s, r.summary = .ok (some s) ∧ r.closingLines = .ok s.lines ∧
      s.total.toNanos = Duration.largest.toNanos ∧ s.events = 3 := by
  intro recordings r
  have fits : countOf recordings < 2 ^ 64 := by decide
  have taken : (start "aggregate-service").accepted recordings = recordings := by decide +kernel
  obtain ⟨_, _, closes⟩ := closes_unless_total_overflows "aggregate-service" recordings fits
  rw [taken] at closes
  obtain ⟨closing, summarized, logged, none_iff, exactly⟩ := closes (by decide)
  cases closing with
  | none =>
    rcases none_iff.mp rfl with uncounted | still
    · exact absurd uncounted (by decide)
    · exact absurd (still .recv) (by decide)
  | some s =>
    obtain ⟨total, same⟩ := exactly s rfl
    exact ⟨fits, s, summarized, logged, total.trans (by decide), by rw [same]; rfl⟩

/-- Two operations that go through leave a record that cannot be closed, although it has no
event to report. -/
theorem closing_overflows :
    let recordings : List Recording := [.recv .largest, .send { seconds := 0, nanos := 1 }]
    let r := (start "aggregate-service").run recordings
    (start "aggregate-service").accepted recordings = recordings ∧ r.events = 0 ∧
      r.summary = .error .overflow ∧ r.closingLines = .error .overflow := by
  intro recordings r
  have taken : (start "aggregate-service").accepted recordings = recordings := by decide +kernel
  have exact : Exact _ recordings r := taken ▸ run_exact _ recordings
  have failed : r.summary = .error .overflow :=
    summary_eq_error_iff.mpr (by rw [exact.nanos]; decide)
  exact ⟨taken, exact.events, failed, closingLines_eq_error_iff.mpr failed⟩

end Record

end AggregateStage.Metrics
