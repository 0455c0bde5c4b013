import Mathlib.Algebra.Ring.Nat
import AggregateStage.Proofs.Recording

/-! Recording that goes on behind operations that fail. Each phase holds exactly the time of
the operations that went through, and one fails exactly when its time and that of its phase
leave the range of durations together. -/
namespace AggregateStage

namespace Duration

def largest : Duration where
  seconds := secondsLimit - 1
  nanos := nanosPerSecond - 1

theorem limit_eq : limit = largest.toNanos + 1 := by decide

end Duration

namespace Metrics

/-- What the time of a call is spent on. -/
inductive Phase where
  | processing
  | send
  | recv
  deriving DecidableEq, Repr

def Record.time (r : Record) : Phase → Duration
  | .processing => r.processing
  | .send => r.send
  | .recv => r.recv

def Recording.phase : Recording → Phase
  | .processing _ _ => .processing
  | .send _ => .send
  | .recv _ => .recv

/-- The nanoseconds of a phase that operations record. -/
def nanosOf (phase : Phase) (recordings : List Recording) : Nat :=
  ((recordings.filter (·.phase = phase)).map (·.elapsed.toNanos)).sum

/-- The events that operations count. -/
def countOf (recordings : List Recording) : Nat := (recordings.map (·.count.toNat)).sum

theorem nanosOf_append (phase : Phase) (first second : List Recording) :
    nanosOf phase (first ++ second) = nanosOf phase first + nanosOf phase second := by
  simp [nanosOf]

theorem countOf_append (first second : List Recording) :
    countOf (first ++ second) = countOf first + countOf second := by
  simp [countOf]

/-- Fewer operations count no more events. -/
theorem countOf_le {first second : List Recording} (fewer : first.Sublist second) :
    countOf first ≤ countOf second := by
  induction fewer with
  | slnil => exact Nat.le_refl _
  | cons recording _ ih =>
    simp only [countOf, List.map_cons, List.sum_cons] at ih ⊢
    omega
  | cons_cons recording _ ih =>
    simp only [countOf, List.map_cons, List.sum_cons] at ih ⊢
    omega

theorem nanosOf_phase (recording : Recording) :
    nanosOf recording.phase [recording] = recording.elapsed.toNanos := by
  simp [nanosOf]

theorem ofExcept_bind {α β : Type} (x : Except Fault α) (f : α → EStateM Fault Record β)
    (r : Record) :
    (ofExcept x >>= f) r =
      match x with
      | .ok a => f a r
      | .error fault => .error fault r := by
  cases x <;> rfl

namespace Record

variable {r next : Record} {recording : Recording} {fault : Fault} {service : String}
  {taken : List Recording}

/-- Whether an operation goes through. -/
def accepts (r : Record) (recording : Recording) : Bool :=
  match recording.carryOut r with
  | .ok _ _ => true
  | .error _ _ => false

/-- The record behind a run of operations, each on what the one before it left. -/
def run (r : Record) (recordings : List Recording) : Record := recordings.foldl after r

/-- The operations of a run that go through. -/
def accepted (r : Record) : List Recording → List Recording
  | [] => []
  | recording :: rest => [recording].filter r.accepts ++ (r.after recording).accepted rest

/-- Nothing is stored before the one sum that can fail. -/
theorem carryOut_eq (r : Record) (recording : Recording) :
    recording.carryOut r =
      match r.apply recording with
      | .ok next => .ok () next
      | .error fault => .error fault r := by
  cases recording with
  | recv elapsed =>
    change (ofExcept (sum r.recv elapsed) >>= _ : EStateM Fault Record Unit) r = _
    rw [ofExcept_bind, apply, addRecv]
    cases sum r.recv elapsed <;> rfl
  | processing elapsed count =>
    change (ofExcept (sum r.processing elapsed) >>= _ : EStateM Fault Record Unit) r = _
    rw [ofExcept_bind, apply, addProcessing]
    cases sum r.processing elapsed <;> rfl
  | send elapsed =>
    change (ofExcept (sum r.send elapsed) >>= _ : EStateM Fault Record Unit) r = _
    rw [ofExcept_bind, apply, addSend]
    cases sum r.send elapsed <;> rfl

/-- All that an operation can do: it goes through, or it fails and leaves the record. -/
theorem after_cases (r : Record) (recording : Recording) :
    (∃ next, r.apply recording = .ok next ∧ r.accepts recording = true ∧
      r.after recording = next) ∨
    (r.apply recording = .error .overflow ∧ r.accepts recording = false ∧
      recording.carryOut r = .error .overflow r) := by
  unfold accepts after
  rw [carryOut_eq]
  cases applied : r.apply recording with
  | ok next => exact .inl ⟨next, rfl, rfl, rfl⟩
  | error fault => exact .inr ⟨rfl, rfl, rfl⟩

theorem after_of_failed (failed : recording.carryOut r = .error fault r) :
    r.after recording = r := by
  rw [after, failed]

theorem time_apply (added : r.apply recording = .ok next) (phase : Phase) :
    (next.time phase).toNanos = (r.time phase).toNanos + nanosOf phase [recording] := by
  cases recording
  all_goals
    obtain ⟨total, exact, rfl⟩ := record_eq_ok added
    have sum := Duration.add?_eq_some exact
    cases phase <;> simp [time, nanosOf, Recording.phase, Recording.elapsed, sum]

theorem service_apply (added : r.apply recording = .ok next) : next.service = r.service := by
  cases recording
  all_goals
    obtain ⟨total, _, rfl⟩ := record_eq_ok added
    rfl

/-- An operation fails exactly when there is no room for its time in its phase. -/
theorem accepts_eq_false_iff (r : Record) (recording : Recording) :
    r.accepts recording = false ↔ Duration.largest.toNanos <
      (r.time recording.phase).toNanos + recording.elapsed.toNanos := by
  rcases r.after_cases recording with ⟨next, added, accepted, _⟩ | ⟨failed, rejected, _⟩
  · have exact := time_apply added recording.phase
    have bound := (next.time recording.phase).toNanos_lt_limit
    rw [nanosOf_phase] at exact
    rw [Duration.limit_eq] at bound
    simp only [accepted, Bool.true_eq_false, false_iff]
    omega
  · have beyond : Duration.limit ≤
        (r.time recording.phase).toNanos + recording.elapsed.toNanos := by
      cases recording <;> exact record_eq_error failed
    rw [Duration.limit_eq] at beyond
    simp only [rejected, true_iff]
    omega

/-- A record that holds exactly what some operations recorded. -/
structure Exact (service : String) (taken : List Recording) (r : Record) : Prop where
  service : r.service = service
  time : ∀ phase, (r.time phase).toNanos = nanosOf phase taken
  events : r.events = UInt64.ofNat (countOf taken)

theorem start_exact (service : String) : Exact service [] (start service) where
  service := rfl
  time phase := by
    have still : (start service).time phase = .zero := by cases phase <;> rfl
    rw [still, Duration.toNanos_zero]
    rfl
  events := rfl

theorem Exact.after (exact : Exact service taken r) (recording : Recording) :
    Exact service (taken ++ [recording].filter r.accepts) (r.after recording) := by
  rcases r.after_cases recording with ⟨next, added, accepted, rfl⟩ | ⟨_, rejected, failed⟩
  · rw [List.filter_cons_of_pos accepted, List.filter_nil]
    refine ⟨(service_apply added).trans exact.service, fun phase => ?_, ?_⟩
    · rw [time_apply added, exact.time, nanosOf_append]
    · rw [events_apply recording added, exact.events, countOf_append, UInt64.ofNat_add]
      simp [countOf]
  · rw [List.filter_cons_of_neg (by simp [rejected]), List.filter_nil, List.append_nil,
      after_of_failed failed]
    exact exact

theorem Exact.run (exact : Exact service taken r) (recordings : List Recording) :
    Exact service (taken ++ r.accepted recordings) (r.run recordings) := by
  induction recordings generalizing r taken with
  | nil => simpa [accepted, Record.run] using exact
  | cons recording rest ih =>
    have next := ih (exact.after recording)
    rw [List.append_assoc] at next
    exact next

theorem run_exact (service : String) (recordings : List Recording) :
    Exact service ((start service).accepted recordings) ((start service).run recordings) :=
  (start_exact service).run recordings

theorem accepted_sublist (r : Record) (recordings : List Recording) :
    (r.accepted recordings).Sublist recordings := by
  induction recordings generalizing r with
  | nil => exact List.Sublist.slnil
  | cons recording rest ih =>
    exact List.Sublist.append (List.filter_sublist) (ih (r.after recording))

/-- The count of a run does not wrap when there is room for all its events. -/
theorem Exact.events_toNat {recordings : List Recording} (exact : Exact service taken r)
    (fewer : taken.Sublist recordings) (fits : countOf recordings < 2 ^ 64) :
    r.events.toNat = countOf taken := by
  have bound := Nat.lt_of_le_of_lt (countOf_le fewer) fits
  rw [exact.events, UInt64.toNat_ofNat_of_lt' bound]

/-- Recording is exact, whatever fails in between. An operation fails exactly when the time that
its phase has come to and its own exceed the largest duration, and then leaves the record as it
was. Behind any run of operations each phase holds the time of those that went through, with its
nanoseconds below a second, and the record counts their events. -/
theorem recording_exact (service : String) (recordings : List Recording)
    (fits : countOf recordings < 2 ^ 64) :
    (∀ earlier recording later, recordings = earlier ++ recording :: later →
      let r := (start service).run earlier
      (r.accepts recording = false ↔ Duration.largest.toNanos <
        nanosOf recording.phase ((start service).accepted earlier) +
          recording.elapsed.toNanos) ∧
      (r.accepts recording = false → recording.carryOut r = .error .overflow r)) ∧
    let r := (start service).run recordings
    let taken := (start service).accepted recordings
    (∀ phase, (r.time phase).toNanos = nanosOf phase taken ∧
      (r.time phase).nanos < Duration.nanosPerSecond) ∧
    r.events.toNat = countOf taken := by
  refine ⟨?_, ?_⟩
  · intro earlier recording later _ r
    refine ⟨?_, ?_⟩
    · rw [r.accepts_eq_false_iff recording, (run_exact service earlier).time]
    · intro rejected
      rcases r.after_cases recording with ⟨_, _, accepted, _⟩ | ⟨_, _, failed⟩
      · simp [rejected] at accepted
      · exact failed
  · intro r taken
    have exact := run_exact service recordings
    exact ⟨fun phase => ⟨exact.time phase, (r.time phase).nanos_lt⟩,
      exact.events_toNat (accepted_sublist _ recordings) fits⟩

/-- A phase that is full takes no nanosecond more, while another goes on over a carry. -/
theorem recording_exact_when_full :
    let full : Recording := .recv .largest
    let first : Recording := .processing { seconds := 1, nanos := 999999999 } 4
    let beyond : Recording := .recv { seconds := 0, nanos := 1 }
    let second : Recording := .processing { seconds := 0, nanos := 1 } 1
    let before := (start "aggregate-service").run [full, first]
    let r := (start "aggregate-service").run [full, first, beyond, second]
    countOf [full, first, beyond, second] < 2 ^ 64 ∧
    beyond.carryOut before = .error .overflow before ∧
    (r.time .recv).toNanos = Duration.largest.toNanos ∧
    (r.time .processing).toNanos = 2000000000 ∧ r.events.toNat = 5 := by
  intro full first beyond second before r
  have fits : countOf [full, first, beyond, second] < 2 ^ 64 := by decide
  have early : (start "aggregate-service").accepted [full, first] = [full, first] := by
    decide +kernel
  have taken : (start "aggregate-service").accepted [full, first, beyond, second] =
      [full, first, second] := by decide +kernel
  obtain ⟨fails, times, events⟩ := recording_exact "aggregate-service" _ fits
  obtain ⟨exactly, unchanged⟩ := fails [full, first] beyond [second] rfl
  rw [early] at exactly
  rw [taken] at events
  refine ⟨fits, unchanged (exactly.mpr (by decide)), ?_, ?_, events.trans (by decide)⟩
  · exact (times .recv).1.trans (by rw [taken]; decide)
  · exact (times .processing).1.trans (by rw [taken]; decide)

end Record

end Metrics

end AggregateStage
