import AggregateStage.Server.State

/-! The steps of a start as a relation, and what they keep of a server whose starts come one
after the other. It runs and has its listener published from when that is bound until just
before the start returns. -/
namespace AggregateStage.Server

/-- The server with one of its starts in a phase. -/
def withPhase (s : Server) (start : Nat) (phase : Phase) : Server :=
  { s with starts := s.starts.set start phase }

/-- Everything that a step of a start can do: the phases that it leads from and to, and
the server behind it. -/
inductive Turn (s : Server) (start : Nat) : Phase → Step → Phase → Server → Prop where
  | idle {phase : Phase} {step : Step} : Turn s start phase step phase s
  | describe {fault : Option String} (fine : fault = none ∨ s.options.reflection = false) :
      Turn s start .describing (.describe fault) .binding (s.withPhase start .binding)
  | undescribed (described : s.options.reflection = true) :
      Turn s start .describing (.describe (some reason)) (.returned (.undescribed reason))
        (s.withPhase start (.returned (.undescribed reason)))
  | bind : Turn s start .binding (.bind listener) (.bound listener)
      { s.withPhase start (.bound listener) with listeners := s.listeners ++ [listener] }
  | refuse : Turn s start .binding (.refuse reason) (.returned (.unbound reason))
      (s.withPhase start (.returned (.unbound reason)))
  | raise : Turn s start (.bound listener) .advance (.flagged listener)
      { s.withPhase start (.flagged listener) with
        running := true
        log := s.log ++
          [⟨.info, .server, "Starting gRPC server", [⟨"addr", .text listener.toText⟩]⟩] }
  | publish : Turn s start (.flagged listener) .advance (.published listener)
      { s.withPhase start (.published listener) with published := some listener }
  | serve : Turn s start (.published listener) .advance (.serving listener s.receiver)
      { s.withPhase start (.serving listener s.receiver) with shutdown := s.shutdown.attach }
  | finish {copy : Watch.Receiver} (asked : s.shutdown.hasNews copy = true) :
      Turn s start (.serving listener copy) .advance (.closing .stopped)
        { s.withPhase start (.closing .stopped) with shutdown := s.shutdown.detach }
  | fail {copy : Watch.Receiver} :
      Turn s start (.serving listener copy) (.fail reason) (.closing (.broken reason))
      { s.withPhase start (.closing (.broken reason)) with shutdown := s.shutdown.detach }
  | lower : Turn s start (.closing outcome) .advance (.lowered outcome)
      { s.withPhase start (.lowered outcome) with running := false }
  | withdraw : Turn s start (.lowered outcome) .advance (.withdrawn outcome)
      { s.withPhase start (.withdrawn outcome) with published := none }
  | report : Turn s start (.withdrawn outcome) .advance (.returned outcome)
      { s.withPhase start (.returned outcome) with log := s.log ++ outcome.lines }
  | drop {phase : Phase} (going : phase.isOver = false) :
      Turn s start phase (.drop reason) (.dropped phase reason)
        { s.withPhase start (.dropped phase reason) with
          shutdown := if phase.receiver?.isSome then s.shutdown.detach else s.shutdown }

variable {s after : Server} {start : Nat} {phase next : Phase} {step : Step} {outcome : Outcome}
  {earlier : List Phase}

theorem step_turn (found : s.starts[start]? = some phase) (step : Step) :
    ∃ next, s.Turn start phase step next (s.step start step) := by
  unfold Server.step
  rw [found]
  cases phase <;> cases step
  all_goals try exact ⟨_, .idle⟩
  all_goals try exact ⟨_, .drop rfl⟩
  case describing.describe fault =>
    cases described : s.options.reflection with
    | false => exact ⟨_, by simpa [described, withPhase] using Turn.describe (.inr described)⟩
    | true =>
      cases fault with
      | none => exact ⟨_, .describe (.inl rfl)⟩
      | some reason => exact ⟨_, by simpa [described, withPhase] using Turn.undescribed described⟩
  case binding.bind => exact ⟨_, .bind⟩
  case binding.refuse => exact ⟨_, .refuse⟩
  case serving.fail => exact ⟨_, .fail⟩
  case bound.advance => exact ⟨_, .raise⟩
  case flagged.advance => exact ⟨_, .publish⟩
  case published.advance => exact ⟨_, .serve⟩
  case serving.advance listener copy =>
    by_cases asked : s.shutdown.hasNews copy = true
    · exact ⟨_, by simpa [advance, asked, withPhase] using Turn.finish asked⟩
    · exact ⟨_, by simpa [advance, asked] using Turn.idle⟩
  case closing.advance => exact ⟨_, .lower⟩
  case lowered.advance => exact ⟨_, .withdraw⟩
  case withdrawn.advance => exact ⟨_, .report⟩

/-- A step of a start that there is not does nothing. -/
theorem step_absent (absent : s.starts[start]? = none) (step : Step) : s.step start step = s := by
  unfold Server.step
  rw [absent]

/-- No listener is forgotten. -/
theorem Turn.listeners (turn : s.Turn start phase step next after) :
    s.listeners <+: after.listeners := by
  cases turn with
  | bind => exact List.prefix_append _ _
  | _ => exact List.prefix_rfl

theorem Turn.still (turn : s.Turn start phase step next after) (ended : phase.isOver = true) :
    next = phase ∧ after = s := by
  cases turn with
  | idle => exact ⟨rfl, rfl⟩
  | drop going => exact absurd ended (Bool.eq_false_iff.mp going)
  | _ => cases ended

/-- A request to stop is a new version for its receivers, and only logged if there is none. -/
theorem stop_cases (s : Server) :
    let log := s.log ++ [⟨.info, .server, "Stopping gRPC server", []⟩]
    (0 < s.shutdown.receivers ∧ s.stop =
      ({ s with shutdown := ⟨true, s.shutdown.version + 1, s.shutdown.receivers⟩, log := log },
        true)) ∨
    (s.shutdown.receivers = 0 ∧ s.stop = ({ s with log := log }, false)) := by
  intro log
  cases sent : s.shutdown.send? true with
  | some shutdown =>
    have heard := (Watch.send?_isSome s.shutdown true).mp (by simp [sent])
    refine .inl ⟨heard, ?_⟩
    simp only [stop, sent, Watch.send?_eq_some sent, log]
  | none =>
    have unheard := mt (Watch.send?_isSome s.shutdown true).mpr (by simp [sent])
    exact .inr ⟨by omega, by simp only [stop, sent, log]⟩

/-- Whether a server with a start in a phase says that it runs. -/
def Phase.isRunning : Phase → Bool
  | .flagged _ | .published _ | .serving _ _ | .closing _ => true
  | .dropped phase _ => phase.isRunning
  | _ => false

/-- Whether a start in a phase has its listener published. -/
def Phase.isPublished : Phase → Bool
  | .published _ | .serving _ _ | .closing _ | .lowered _ => true
  | .dropped phase _ => phase.isPublished
  | _ => false

/-- Whether a start in a phase has bound its listener; one that has returned may not have. -/
def Phase.hasBound : Phase → Bool
  | .bound _ | .flagged _ | .withdrawn _ => true
  | .dropped phase _ => phase.hasBound
  | phase => phase.isPublished

theorem Phase.hasBound_of_isPublished (published : phase.isPublished = true) :
    phase.hasBound = true := by
  induction phase with
  | dropped phase reason ih => exact ih published
  | bound | flagged | withdrawn => rfl
  | _ => exact published

theorem Phase.hasBound_of_isRunning (running : phase.isRunning = true) :
    phase.hasBound = true := by
  induction phase with
  | dropped phase reason ih => exact ih running
  | flagged | published | serving | closing => rfl
  | _ => cases running

/-- The listener of a start between publishing it and the end of serving. -/
def Phase.served? : Phase → Option Net.Endpoint
  | .published listener | .serving listener _ => some listener
  | _ => none

/-- What a server says of itself is what a start in a phase made it say. -/
structure Reflects (s : Server) (phase : Phase) : Prop where
  running : s.running = phase.isRunning
  published : s.published.isSome = phase.isPublished
  served : ∀ listener, phase.served? = some listener → s.published = some listener
  bound : phase.hasBound = true → s.listeners ≠ []
  receivers : s.shutdown.receivers = 1 + phase.receiver?.toList.length

/-- A server whose last start is in a phase, and all before that have returned. -/
structure InTurn (s : Server) (earlier : List Phase) (phase : Phase) : Prop
    extends s.Reflects phase where
  starts : s.starts = earlier ++ [phase]
  returned : ∀ other ∈ earlier, other.outcome?.isSome

/-- A server whose only start is in a phase. -/
abbrev Single (s : Server) (phase : Phase) : Prop := s.InTurn [] phase

theorem create_reflects (options : Options) : (create options).Reflects .describing :=
  ⟨rfl, rfl, by simp [Phase.served?], by simp [Phase.hasBound, Phase.isPublished], rfl⟩

/-- A server says the same of a start that has returned as of one that begins. -/
theorem Reflects.ofReturned (reflects : s.Reflects (.returned outcome)) :
    s.Reflects .describing :=
  ⟨reflects.running, reflects.published, reflects.served, reflects.bound, reflects.receivers⟩

theorem Reflects.begin (reflects : s.Reflects .describing) :
    (s.act .start).Reflects .describing :=
  ⟨reflects.running, reflects.published, reflects.served, reflects.bound, reflects.receivers⟩

theorem single_create (options : Options) : ((create options).act .start).Single .describing where
  toReflects := (create_reflects options).begin
  starts := rfl
  returned := by simp

/-- There is always the server's own receiver of a request to stop. -/
theorem Reflects.stop (reflects : s.Reflects phase) :
    s.stop.2 = true ∧ s.stop.1.Reflects phase := by
  have heard := reflects.receivers
  rcases s.stop_cases with ⟨_, stopped⟩ | ⟨unheard, _⟩
  · rw [stopped]
    exact ⟨rfl, reflects.running, reflects.published, reflects.served, reflects.bound,
      reflects.receivers⟩
  · omega

theorem stop_starts (s : Server) : s.stop.1.starts = s.starts := by
  rcases s.stop_cases with ⟨_, stopped⟩ | ⟨_, stopped⟩ <;> rw [stopped]

theorem stop_listeners (s : Server) : s.stop.1.listeners = s.listeners := by
  rcases s.stop_cases with ⟨_, stopped⟩ | ⟨_, stopped⟩ <;> rw [stopped]

theorem stop_published (s : Server) : s.stop.1.published = s.published := by
  rcases s.stop_cases with ⟨_, stopped⟩ | ⟨_, stopped⟩ <;> rw [stopped]

theorem InTurn.stop (inTurn : s.InTurn earlier phase) : (s.act .stop).InTurn earlier phase where
  toReflects := inTurn.toReflects.stop.2
  starts := s.stop_starts.trans inTurn.starts
  returned := inTurn.returned

theorem Turn.reflects (turn : s.Turn start phase step next after) (reflects : s.Reflects phase) :
    after.Reflects next := by
  obtain ⟨running, published, served, bound, receivers⟩ := reflects
  cases turn with
  | idle => exact ⟨running, published, served, bound, receivers⟩
  | describe | undescribed | refuse | report =>
    exact ⟨running, published, by simp [Phase.served?],
      by simp [Phase.hasBound, Phase.isPublished], receivers⟩
  | bind => exact ⟨running, published, by simp [Phase.served?], by simp, receivers⟩
  | raise => exact ⟨rfl, published, by simp [Phase.served?], fun _ => bound rfl, receivers⟩
  | publish => exact ⟨running, rfl, fun _ same => same, fun _ => bound rfl, receivers⟩
  | serve =>
    refine ⟨running, published, served, fun _ => bound rfl, ?_⟩
    simp [receivers, Phase.receiver?]
  | finish | fail =>
    refine ⟨running, published, by simp [Phase.served?], fun _ => bound rfl, ?_⟩
    simp [receivers, Phase.receiver?]
  | lower => exact ⟨rfl, published, by simp [Phase.served?], fun _ => bound rfl, receivers⟩
  | withdraw => exact ⟨running, rfl, by simp [Phase.served?], fun _ => bound rfl, receivers⟩
  | drop =>
    refine ⟨running, published, by simp [Phase.served?], bound, ?_⟩
    rw [apply_ite Watch.receivers, Watch.receivers_detach, receivers]
    cases phase.receiver? <;> rfl

/-- A step of a start changes no other start. -/
theorem Turn.starts (turn : s.Turn start phase step next after)
    (found : s.starts[start]? = some phase) : after.starts = s.starts.set start next := by
  cases turn with
  | idle =>
    obtain ⟨bound, rfl⟩ := List.getElem?_eq_some_iff.mp found
    exact (List.set_getElem_self bound).symm
  | _ => rfl

theorem InTurn.found (inTurn : s.InTurn earlier phase) :
    s.starts[earlier.length]? = some phase := by
  simp [inTurn.starts]

theorem Turn.inTurn (turn : s.Turn earlier.length phase step next after)
    (inTurn : s.InTurn earlier phase) : after.InTurn earlier next where
  toReflects := turn.reflects inTurn.toReflects
  starts := by
    rw [turn.starts inTurn.found, inTurn.starts]
    simp
  returned := inTurn.returned

end AggregateStage.Server
