import AggregateStage.Proofs.Server.Start

/-! The life of a server whose starts come one after the other, while others ask it to stop
and wait for its listener at any time. `act_move` says what an action can do; what a life
keeps is proved move by move. -/
namespace AggregateStage.Server

/-- Everything that an action can do to a server. -/
inductive Move (s : Server) : Action → Server → Prop where
  | idle {action : Action} : Move s action s
  | start : Move s .start { s with starts := s.starts ++ [.describing] }
  | turn {index : Nat} {phase next : Phase} {step : Step}
      (found : s.starts[index]? = some phase) (turn : s.Turn index phase step next after) :
      Move s (.step index step) after
  | stop (heard : 0 < s.shutdown.receivers) : Move s .stop { s with
      shutdown := ⟨true, s.shutdown.version + 1, s.shutdown.receivers⟩
      log := s.log ++ [⟨.info, .server, "Stopping gRPC server", []⟩] }
  | stopUnheard (unheard : s.shutdown.receivers = 0) : Move s .stop { s with
      log := s.log ++ [⟨.info, .server, "Stopping gRPC server", []⟩] }
  | listen : Move s .listen { s with waiters := s.waiters ++ [none] }
  | look {waiter : Nat} (waits : s.waiters[waiter]? = some none)
      (published : s.published = some listener) :
      Move s (.look waiter) { s with waiters := s.waiters.set waiter (some listener) }

variable {s after : Server} {action : Action} {phase next : Phase} {index : Nat} {step : Step}
  {bound waiting : Nat}

theorem act_move (s : Server) (action : Action) : s.Move action (s.act action) := by
  cases action with
  | start => exact .start
  | step start step =>
    cases found : s.starts[start]? with
    | none =>
      have same : s.act (.step start step) = s := step_absent found step
      rw [same]
      exact .idle
    | some phase =>
      obtain ⟨next, turn⟩ := step_turn found step
      exact .turn found turn
  | stop =>
    rcases s.stop_cases with ⟨heard, stopped⟩ | ⟨unheard, stopped⟩
    · simp only [act, stopped]
      exact .stop heard
    · simp only [act, stopped]
      exact .stopUnheard unheard
  | listen => exact .listen
  | look waiter =>
    simp only [act]
    split
    · exact .look ‹_› ‹_›
    · exact .idle

/-- What every move keeps is kept by a life. -/
theorem execute_keeps {P : Server → Prop}
    (kept : ∀ {s after action}, P s → s.Move action after → P after) {s : Server} (holds : P s)
    (schedule : List Action) : P (s.execute schedule) := by
  induction schedule generalizing s with
  | nil => exact holds
  | cons action schedule ih => exact ih (kept holds (s.act_move action))

/-! Starts that come one after the other. -/

/-- No start is in progress: all have returned, which one that is dropped never does. -/
def Idle (s : Server) : Prop := ∀ phase ∈ s.starts, phase.outcome?.isSome = true

instance (s : Server) : Decidable s.Idle :=
  inferInstanceAs (Decidable (∀ phase ∈ s.starts, phase.outcome?.isSome = true))

/-- Every start of a schedule begins while no other is in progress. -/
def OneAtATime : List Action → Server → Prop
  | [], _ => True
  | action :: later, s => (action = .start → s.Idle) ∧ OneAtATime later (s.act action)

instance OneAtATime.decide : (schedule : List Action) → (s : Server) →
    Decidable (OneAtATime schedule s)
  | [], _ => isTrue trivial
  | action :: later, s =>
    have := OneAtATime.decide later (s.act action)
    inferInstanceAs (Decidable ((action = .start → s.Idle) ∧ OneAtATime later (s.act action)))

theorem OneAtATime.before {first later : List Action} (turns : OneAtATime (first ++ later) s) :
    OneAtATime first s := by
  induction first generalizing s with
  | nil => trivial
  | cons action first ih => exact ⟨turns.1, ih turns.2⟩

/-- What the server says is what its last start made it say; those before have returned. -/
inductive Orderly (s : Server) : Prop where
  | unstarted (none : s.starts = []) (reflects : s.Reflects .describing)
  | started {earlier : List Phase} {phase : Phase} (inTurn : s.InTurn earlier phase)

/-- The phase that the server's words go by. -/
theorem Orderly.reflects (orderly : s.Orderly) : ∃ phase, s.Reflects phase := by
  cases orderly with
  | unstarted _ reflects => exact ⟨_, reflects⟩
  | started inTurn => exact ⟨_, inTurn.toReflects⟩

theorem Orderly.idle (orderly : s.Orderly) (idle : s.Idle) : s.Reflects .describing := by
  cases orderly with
  | unstarted _ reflects => exact reflects
  | @started earlier phase inTurn =>
    have returned := idle phase (by simp [inTurn.starts])
    cases phase with
    | returned outcome => exact inTurn.toReflects.ofReturned
    | _ => cases returned

theorem Move.orderly (move : s.Move action after) (orderly : s.Orderly)
    (free : action = .start → s.Idle) : after.Orderly := by
  -- Most moves leave the starts and the words of the server as they are.
  have same (starts : after.starts = s.starts)
      (kept : ∀ phase, s.Reflects phase → after.Reflects phase) : after.Orderly := by
    cases orderly with
    | unstarted none reflects => exact .unstarted (starts.trans none) (kept _ reflects)
    | started inTurn =>
      exact .started ⟨kept _ inTurn.toReflects, starts.trans inTurn.starts, inTurn.returned⟩
  cases move with
  | idle => exact orderly
  | start =>
    have idle := free rfl
    exact .started ⟨(orderly.idle idle).begin, rfl, idle⟩
  | @turn _ index phase next step found turn =>
    cases orderly with
    | unstarted none => simp [none] at found
    | @started earlier current inTurn =>
      by_cases last : index = earlier.length
      · subst last
        rw [inTurn.found] at found
        cases found
        exact .started (turn.inTurn inTurn)
      · rw [inTurn.starts, List.getElem?_append] at found
        have old : phase ∈ earlier := by
          split at found
          · exact List.mem_of_getElem? found
          · rw [List.getElem?_eq_none (by simp; omega)] at found
            contradiction
        have returned := inTurn.returned phase old
        cases phase with
        | returned outcome =>
          obtain ⟨_, rfl⟩ := turn.still rfl
          exact .started inTurn
        | _ => cases returned
  | stop | stopUnheard | listen | look =>
    exact same rfl fun _ reflects => ⟨reflects.running, reflects.published, reflects.served,
      reflects.bound, reflects.receivers⟩

theorem execute_orderly {schedule : List Action} (turns : OneAtATime schedule s)
    (orderly : s.Orderly) : (s.execute schedule).Orderly := by
  induction schedule generalizing s with
  | nil => exact orderly
  | cons action schedule ih =>
    exact ih turns.2 ((s.act_move action).orderly orderly turns.1)

theorem life_orderly {schedule : List Action} {options : Options}
    (turns : OneAtATime schedule (create options)) :
    ((create options).execute schedule).Orderly :=
  execute_orderly turns (.unstarted rfl (create_reflects options))

/-- A server that runs has bound a listener. -/
theorem Reflects.silent (reflects : s.Reflects phase) (unbound : phase.hasBound = false) :
    s.running = false ∧ s.published = none := by
  have running : phase.isRunning = false := by
    apply Bool.eq_false_iff.mpr
    intro runs
    exact Bool.eq_false_iff.mp unbound (Phase.hasBound_of_isRunning runs)
  have published : phase.isPublished = false := by
    apply Bool.eq_false_iff.mpr
    intro shown
    exact Bool.eq_false_iff.mp unbound (Phase.hasBound_of_isPublished shown)
  refine ⟨reflects.running.trans running, ?_⟩
  have isNone := reflects.published.trans published
  simpa using isNone

/-- Of the starts in their order only the last one can serve. -/
theorem Orderly.served (orderly : s.Orderly) (member : phase ∈ s.starts)
    {listener : Net.Endpoint} (serves : phase.served? = some listener) :
    s.running = true ∧ s.published = some listener := by
  cases orderly with
  | unstarted none => simp [none] at member
  | @started earlier current inTurn =>
    rw [inTurn.starts, List.mem_append, List.mem_singleton] at member
    rcases member with old | rfl
    · have returned := inTurn.returned phase old
      cases phase <;> simp_all [Phase.served?, Phase.outcome?]
    · refine ⟨?_, inTurn.served listener serves⟩
      rw [inTurn.running]
      cases phase <;> simp_all [Phase.served?, Phase.isRunning]

/-! What those who wait are told. -/

/-- Since there were so many listeners and waiters, only listeners bound later are held,
published, and told to waiters that came later. -/
structure Since (s : Server) (bound waiting : Nat) : Prop where
  extent : bound ≤ s.listeners.length
  held : ∀ phase ∈ s.starts, ∀ listener, phase.listener? = some listener →
    listener ∈ s.listeners.drop bound
  published : ∀ listener, s.published = some listener → listener ∈ s.listeners.drop bound
  told : ∀ waiter, waiting ≤ waiter → ∀ listener, s.waiters[waiter]? = some (some listener) →
    listener ∈ s.listeners.drop bound

theorem Turn.holds (turn : s.Turn index phase step next after) (since : s.Since bound waiting)
    (member : phase ∈ s.starts) {listener : Net.Endpoint} :
    (next.listener? = some listener → listener ∈ after.listeners.drop bound) ∧
    (after.published = some listener → listener ∈ after.listeners.drop bound) := by
  have held := since.held phase member listener
  have published := since.published listener
  cases turn with
  | bind =>
    rw [List.drop_append_of_le_length since.extent]
    refine ⟨fun same => ?_, fun same => List.mem_append_left _ (published same)⟩
    cases same
    simp
  | publish => exact ⟨held, held⟩
  | idle | raise | serve => exact ⟨held, published⟩
  | withdraw => exact ⟨by simp [Phase.listener?], by simp⟩
  | _ => exact ⟨by simp [Phase.listener?], published⟩

theorem Turn.waiters (turn : s.Turn index phase step next after) :
    after.waiters = s.waiters := by
  cases turn <;> rfl

theorem Move.since (move : s.Move action after) (since : s.Since bound waiting) :
    after.Since bound waiting := by
  cases move with
  | idle | stop | stopUnheard => exact ⟨since.extent, since.held, since.published, since.told⟩
  | start =>
    refine ⟨since.extent, ?_, since.published, since.told⟩
    intro phase member
    rcases List.mem_append.mp member with old | new
    · exact since.held phase old
    · obtain rfl := List.mem_singleton.mp new
      simp [Phase.listener?]
  | turn found turn =>
    have member := List.mem_of_getElem? found
    obtain ⟨more, grown⟩ := turn.listeners
    have later {listener : Net.Endpoint} (known : listener ∈ s.listeners.drop bound) :
        listener ∈ after.listeners.drop bound := by
      rw [← grown, List.drop_append_of_le_length since.extent]
      exact List.mem_append_left _ known
    refine ⟨?_, ?_, fun _ => (turn.holds since member).2, ?_⟩
    · rw [← grown, List.length_append]
      exact Nat.le_add_right_of_le since.extent
    · intro other within listener holds
      rw [turn.starts found] at within
      rcases List.mem_or_eq_of_mem_set within with old | rfl
      · exact later (since.held other old listener holds)
      · exact (turn.holds since member).1 holds
    · intro waiter new listener told
      rw [turn.waiters] at told
      exact later (since.told waiter new listener told)
  | listen =>
    refine ⟨since.extent, since.held, since.published, ?_⟩
    intro waiter new listener told
    rw [List.getElem?_append] at told
    split at told
    · exact since.told waiter new listener told
    · have unanswered := List.mem_of_getElem? told
      simp at unanswered
  | @look listener waiter waits published =>
    refine ⟨since.extent, since.held, since.published, ?_⟩
    intro other new answer told
    by_cases same : other = waiter
    · subst same
      rw [List.getElem?_set_self (List.getElem?_eq_some_iff.mp waits).1] at told
      cases told
      exact since.published listener published
    · rw [List.getElem?_set_ne (Ne.symm same)] at told
      exact since.told other new answer told

theorem create_since (options : Options) : (create options).Since 0 0 :=
  ⟨Nat.zero_le _, by simp [create], by simp [create], by simp [create]⟩

/-- From a moment at which no start is in progress only what is bound later counts. -/
theorem Orderly.since (orderly : s.Orderly) (idle : s.Idle) :
    (s.act .listen).Since s.listeners.length s.waiters.length where
  extent := Nat.le_refl _
  held phase member listener holds := by
    have returned := idle phase member
    cases phase <;> simp_all [Phase.listener?, Phase.outcome?]
  published listener same := by
    have silent : s.published = none := ((orderly.idle idle).silent rfl).2
    exact absurd (silent.symm.trans same) (by simp)
  told waiter new listener told := by
    have beyond : (s.waiters ++ [none])[waiter]? = some (some listener) := told
    rw [List.getElem?_append_right new] at beyond
    have unanswered := List.mem_of_getElem? beyond
    simp at unanswered

/-! Requests to stop. -/

/-- All who watch for requests to stop have seen what the server's own receiver has. -/
def Watched (s : Server) : Prop :=
  ∀ phase ∈ s.starts, ∀ copy, phase.receiver? = some copy → copy = s.receiver

theorem Turn.watches (turn : s.Turn index phase step next after) (watched : s.Watched)
    (member : phase ∈ s.starts) {copy : Watch.Receiver} (watches : next.receiver? = some copy) :
    copy = s.receiver := by
  cases turn with
  | idle => exact watched phase member copy watches
  | serve => exact (Option.some.inj watches).symm
  | _ => cases watches

/-- The server's own receiver never looks, so nothing that it was sent is ever old. -/
theorem Move.receiver (move : s.Move action after) :
    after.receiver = s.receiver ∧ s.shutdown.version ≤ after.shutdown.version := by
  cases move with
  | turn found turn =>
    cases turn with
    | drop =>
      refine ⟨rfl, Nat.le_of_eq ?_⟩
      rw [apply_ite Watch.version, Watch.version_detach, ite_self]
    | _ => exact ⟨rfl, Nat.le_refl _⟩
  | stop => exact ⟨rfl, Nat.le_succ _⟩
  | _ => exact ⟨rfl, Nat.le_refl _⟩

theorem Move.watched (move : s.Move action after) (watched : s.Watched) : after.Watched := by
  have receiver := move.receiver.1
  intro phase member copy watches
  rw [receiver]
  cases move with
  | start =>
    rcases List.mem_append.mp member with old | new
    · exact watched phase old copy watches
    · obtain rfl := List.mem_singleton.mp new
      cases watches
  | turn found turn =>
    rw [turn.starts found] at member
    rcases List.mem_or_eq_of_mem_set member with old | rfl
    · exact watched phase old copy watches
    · exact turn.watches watched (List.mem_of_getElem? found) watches
  | _ => exact watched phase member copy watches

theorem execute_receiver (schedule : List Action) (s : Server) :
    (s.execute schedule).receiver = s.receiver ∧
      s.shutdown.version ≤ (s.execute schedule).shutdown.version := by
  refine execute_keeps (P := fun after => after.receiver = s.receiver ∧
    s.shutdown.version ≤ after.shutdown.version) ?_ ⟨rfl, Nat.le_refl _⟩ schedule
  intro _ _ _ ⟨same, grown⟩ move
  exact ⟨move.receiver.1.trans same, Nat.le_trans grown move.receiver.2⟩

/-- A request that was made while the server had a receiver is news ever after. -/
theorem Orderly.stop_news {before later : List Action} {options : Options}
    (orderly : ((create options).execute before).Orderly) :
    let s := (create options).execute (before ++ .stop :: later)
    s.shutdown.hasNews s.receiver = true := by
  intro s
  obtain ⟨phase, reflects⟩ := orderly.reflects
  have heard := reflects.receivers
  obtain ⟨receiver, grown⟩ :=
    execute_receiver later (((create options).execute before).act .stop)
  have split : s = (((create options).execute before).act .stop).execute later := by
    simp [s, execute]
  rw [← split] at receiver grown
  rcases ((create options).execute before).stop_cases with ⟨_, stopped⟩ | ⟨unheard, _⟩
  · simp only [act, stopped] at receiver grown
    have first := (execute_receiver before (create options)).1
    have seen : s.receiver.seen = 0 := by rw [receiver, first]; rfl
    simp only [Watch.hasNews, seen, bne_iff_ne]
    omega
  · omega

/-- The life of a server whose starts come one after the other: it neither runs nor has a
listener published outside of a start, however that ended; while a start serves, both are as
they should be; those who wait are told of listeners that were bound, and bound since they
began to wait outside of a start; and a request to stop is always received and never lost. -/
theorem life_cycle (options : Options) (schedule : List Action)
    (turns : OneAtATime schedule (create options)) :
    let s := (create options).execute schedule
    (s.Idle ∨ s.listeners = [] → s.running = false ∧ s.published = none) ∧
    (∀ phase ∈ s.starts, ∀ listener, phase.served? = some listener →
      s.running = true ∧ s.published = some listener ∧ listener ∈ s.listeners ∧
      ∀ waiter, s.waiters[waiter]? = some none →
        (s.act (.look waiter)).waiters[waiter]? = some (some listener)) ∧
    (∀ listener, some listener ∈ s.waiters → listener ∈ s.listeners) ∧
    (∀ before later, schedule = before ++ .listen :: later →
      let called := (create options).execute before
      called.Idle → ∀ listener, s.waiters[called.waiters.length]? = some (some listener) →
        listener ∈ s.listeners.drop called.listeners.length) ∧
    s.stop.2 = true ∧
    (.stop ∈ schedule → s.shutdown.hasNews s.receiver = true ∧
      ∀ start listener copy, s.starts[start]? = some (.serving listener copy) →
        s.shutdown.hasNews copy = true ∧
        (s.act (.step start .advance)).starts[start]? = some (.closing .stopped)) := by
  intro s
  have orderly : s.Orderly := life_orderly turns
  have since : s.Since 0 0 :=
    execute_keeps (fun since move => move.since since) (create_since options) schedule
  have watched : s.Watched :=
    execute_keeps (fun watched move => move.watched watched) (by simp [Watched, create]) schedule
  refine ⟨?_, ?_, ?_, ?_, ?_, ?_⟩
  · rintro (idle | unbound)
    · exact (orderly.idle idle).silent rfl
    · obtain ⟨phase, reflects⟩ := orderly.reflects
      refine reflects.silent (Bool.eq_false_iff.mpr fun bound => ?_)
      exact reflects.bound bound unbound
  · intro phase member listener serves
    obtain ⟨running, published⟩ := orderly.served member serves
    refine ⟨running, published, by simpa using since.published listener published, ?_⟩
    intro waiter waits
    have present := (List.getElem?_eq_some_iff.mp waits).1
    simp only [act, waits, published]
    exact List.getElem?_set_self present
  · intro listener told
    obtain ⟨waiter, bound, same⟩ := List.getElem_of_mem told
    simpa using since.told waiter (Nat.zero_le _) listener (by simp [bound, same])
  · intro before later split called idle listener told
    have prior : called.Orderly := life_orderly (split ▸ turns).before
    have rest : s = (called.act .listen).execute later := by simp [s, called, execute, split]
    have fresh : s.Since called.listeners.length called.waiters.length := by
      rw [rest]
      exact execute_keeps (fun since move => move.since since) (prior.since idle) later
    exact fresh.told _ (Nat.le_refl _) listener told
  · obtain ⟨phase, reflects⟩ := orderly.reflects
    exact reflects.stop.1
  · intro asked
    obtain ⟨before, later, split⟩ := List.append_of_mem asked
    have prior : ((create options).execute before).Orderly := life_orderly (split ▸ turns).before
    have news : s.shutdown.hasNews s.receiver = true := by
      simp only [s, split]
      exact prior.stop_news
    refine ⟨news, ?_⟩
    intro start listener copy serves
    have same : copy = s.receiver :=
      watched _ (List.mem_of_getElem? serves) copy rfl
    have present := (List.getElem?_eq_some_iff.mp serves).1
    subst same
    refine ⟨news, ?_⟩
    simp only [act, Server.step, serves, advance, news, if_true]
    exact List.getElem?_set_self present

/-- A server that broke and is asked to stop before it is started again. -/
theorem life_cycle_restarted :
    let first : Net.Endpoint := ⟨.v4 127 0 0 1, 40000⟩
    let second : Net.Endpoint := ⟨.v4 127 0 0 1, 40001⟩
    let opening (start : Nat) (listener : Net.Endpoint) : List Action :=
      [.start, .step start (.describe none), .step start (.bind listener),
        .step start .advance, .step start .advance, .step start .advance]
    let schedule := opening 0 first ++ [.step 0 (.fail "broken pipe"), .step 0 .advance,
      .step 0 .advance, .step 0 .advance, .listen, .look 0, .stop] ++ opening 1 second ++ [.look 0]
    let s := (create .default).execute schedule
    OneAtATime schedule (create .default) ∧
    s.starts = [.returned (.broken "broken pipe"), .serving second s.receiver] ∧
    s.running = true ∧ s.published = some second ∧ s.waiters = [some second] ∧
    second ∈ s.listeners ∧ s.stop.2 = true ∧
    (s.act (.step 1 .advance)).starts[1]? = some (.closing .stopped) := by
  intro first second opening schedule s
  have turns : OneAtATime schedule (create .default) := by decide +kernel
  have starts : s.starts = [.returned (.broken "broken pipe"), .serving second s.receiver] := by
    decide +kernel
  have waiters : s.waiters = [some second] := by decide +kernel
  have asked : .stop ∈ schedule := by decide +kernel
  obtain ⟨_, served, told, _, heard, news⟩ := life_cycle .default schedule turns
  obtain ⟨running, published, _⟩ := served (.serving second s.receiver)
    (by rw [starts]; simp) second rfl
  refine ⟨turns, starts, running, published, waiters, told second (by rw [waiters]; simp), heard,
    ?_⟩
  exact ((news asked).2 1 second s.receiver (by rw [starts]; rfl)).2

end AggregateStage.Server
