import AggregateStage.Proofs.Program.Independence

/-! The withdrawal against the announcement. Nothing orders the two but time, so a withdrawn
service may be registered behind its withdrawal, and one that was never announced is
withdrawn all the same. -/
namespace AggregateStage.Program

open Broker (Request Interface Registration)

variable {p after : Program} {action : Action} {conclusion : Conclusion}

/-- No registration is handled behind a withdrawal. -/
def StaysWithdrawn (handled : List Request) : Prop :=
  ∀ before interface later, handled = before ++ .unregister interface :: later →
    ∀ r, .register r ∉ later

/-- Whether the last thing that the broker was told is a registration. -/
def leftRegistered (handled : List Request) : Bool := handled.getLast?.any Request.isRegister

/-- A registration may yet come to the broker: it is under way, or the announcement is about to
ask for it, or will be once it looks at the listener that is published. -/
def Pending (p : Program) : Prop :=
  p.announcement = .connecting ∨ p.announcement = .waiting ∧ p.server.published.isSome ∨
    ∃ r, .register r ∈ p.inFlight

theorem split_behind {first second before later : List Request} {interface : Interface}
    (noWithdrawal : ∀ i, .unregister i ∉ first)
    (split : first ++ second = before ++ .unregister interface :: later) :
    ∃ more, before = first ++ more ∧ second = more ++ .unregister interface :: later := by
  rcases List.append_eq_append_iff.mp split with ⟨more, head, tail⟩ | ⟨more, head, tail⟩
  · exact ⟨more, head, tail⟩
  · cases more with
    | nil => exact ⟨[], by simpa using head.symm, by simpa using tail.symm⟩
    | cons request more =>
      cases tail
      exact absurd (by simp [head]) (noWithdrawal interface)

theorem staysWithdrawn_append {first second : List Request}
    (noWithdrawal : ∀ i, .unregister i ∉ first) (noRegistration : ∀ r, .register r ∉ second) :
    StaysWithdrawn (first ++ second) := by
  intro before interface later split r member
  obtain ⟨more, _, tail⟩ := split_behind noWithdrawal split
  exact noRegistration r (by simp [tail, member])

theorem StaysWithdrawn.leftRegistered_eq_false {handled : List Request}
    (stays : StaysWithdrawn handled) {interface : Interface}
    (withdrawn : .unregister interface ∈ handled) : leftRegistered handled = false := by
  obtain ⟨before, later, rfl⟩ := List.append_of_mem withdrawn
  cases last : later.getLast? with
  | none =>
    obtain rfl := List.getLast?_eq_none_iff.mp last
    simp [leftRegistered, Request.isRegister]
  | some request =>
    have member := List.mem_of_getLast? last
    cases request with
    | register r => exact absurd member (stays before interface later rfl r)
    | unregister i => simp [leftRegistered, List.getLast?_cons, last, Request.isRegister]

/-! Behind a moment at which nothing is pending. -/

/-- Serving has ended and nothing is pending. -/
structure Quiet (p : Program) : Prop where
  valid : p.Invariant
  ended : p.serving?.isSome
  notPending : ¬ p.Pending

/-- What the broker handles in a step is no registration, and none becomes pending. -/
theorem Step.quiet (step : p.Step action after) (quiet : p.Quiet) :
    after.Quiet ∧ ∃ later, after.handled = p.handled ++ later ∧ ∀ r, .register r ∉ later := by
  have valid := step.invariant quiet.valid
  obtain ⟨notConnecting, rest⟩ := not_or.mp quiet.notPending
  obtain ⟨unseen, noRegistration⟩ := not_or.mp rest
  -- Most steps touch neither the end of serving nor what the broker has to handle.
  have same (ended : after.serving? = p.serving?)
      (published : after.server.published = p.server.published)
      (announcement : after.announcement = p.announcement ∨ after.announcement = .finished)
      (none : ∀ r, .register r ∈ after.inFlight → .register r ∈ p.inFlight)
      (handled : after.handled = p.handled) :
      after.Quiet ∧ ∃ later, after.handled = p.handled ++ later ∧ ∀ r, .register r ∉ later := by
    refine ⟨⟨valid, ended ▸ quiet.ended, ?_⟩, [], by simp [handled], by simp⟩
    rintro (connecting | ⟨waiting, listening⟩ | ⟨r, member⟩)
    · rcases announcement with still | finished
      · exact notConnecting (still ▸ connecting)
      · simp [finished] at connecting
    · rcases announcement with still | finished
      · exact unseen ⟨still ▸ waiting, published ▸ listening⟩
      · simp [finished] at waiting
    · exact noRegistration ⟨r, none r member⟩
  cases step with
  | look going waiting listening => exact absurd ⟨waiting, listening⟩ unseen
  | announce going connecting | failAnnouncement going connecting =>
    exact absurd connecting notConnecting
  | @serve step going =>
    have settled := (quiet.valid.serve step).2.1 quiet.ended
    exact same (serving?_congr settled) (congrArg Server.published settled) (.inl rfl)
      (fun _ member => member) rfl
  | stop | failStop =>
    have starts := congrArg (fun starts => starts.head?.bind Conclusion.ofPhase?)
      p.server.stop_starts
    exact same starts p.server.stop_published (.inl rfl) (fun _ member => member) rfl
  | withdraw served connected =>
    refine same rfl rfl (.inl rfl) ?_ rfl
    intro r member
    simpa [Program.send, withdrawal] using member
  | endAnnouncement => exact same rfl rfl (.inr rfl) (fun _ member => member) rfl
  | @handle request index found =>
    have member := List.mem_of_getElem? found
    refine ⟨⟨valid, quiet.ended, ?_⟩, [request], rfl, ?_⟩
    · rintro (connecting | looking | ⟨r, left⟩)
      · exact notConnecting connecting
      · exact unseen looking
      · exact noRegistration ⟨r, List.mem_of_mem_eraseIdx left⟩
    · intro r equal
      obtain rfl := List.mem_singleton.mp equal
      exact noRegistration ⟨r, member⟩
  | _ => exact same rfl rfl (.inl rfl) (fun _ member => member) rfl

theorem Quiet.execute (quiet : p.Quiet) (schedule : List Action) :
    ∃ later, (p.execute schedule).handled = p.handled ++ later ∧ ∀ r, .register r ∉ later := by
  induction schedule generalizing p with
  | nil => exact ⟨[], by simp [Program.execute], by simp⟩
  | cons action schedule ih =>
    obtain ⟨next, first, handled, none⟩ := (p.advance_step action).quiet quiet
    obtain ⟨second, rest, noneLater⟩ := ih next
    refine ⟨first ++ second, ?_, ?_⟩
    · rw [← List.append_assoc, ← handled]
      exact rest
    · intro r member
      rcases List.mem_append.mp member with earlier | later
      · exact none r earlier
      · exact noneLater r later

/-- A start that returns takes its listener back; one that comes down leaves it published. -/
theorem unpublished_of_returned {outcome : Server.Outcome} (valid : p.Invariant)
    (returned : p.serving? = some (.returned outcome)) : p.server.published = none := by
  obtain ⟨phase, single⟩ := valid.single
  rw [serving?_eq single] at returned
  cases phase with
  | returned outcome => simpa [Server.Phase.isPublished] using single.published
  | _ => cases returned

/-! The moment at which the withdrawal is sent decides. -/

theorem execute_withdraw (served : p.phase = .served conclusion) (connected : p.client.isSome)
    (schedule : List Action) :
    p.execute (.withdraw true :: schedule) =
      ({ p with phase := .withdrawing conclusion }.send p.withdrawal).execute schedule := by
  have present : p.client.isNone = false := by simpa [Option.isNone_eq_false_iff] using connected
  rw [execute, List.foldl_cons]
  simp [advance, isOver, served, proceed, present, execute]

/-- What is pending can be handled behind the withdrawal. -/
theorem Pending.overtaken (pending : p.Pending) (served : p.phase = .served conclusion)
    (connected : p.client.isSome) :
    ∃ schedule r, (p.execute (.withdraw true :: schedule)).handled =
      p.handled ++ [p.withdrawal, .register r] := by
  rcases pending with connecting | ⟨waiting, listening⟩ | ⟨r, member⟩
  · refine ⟨[.announce true, .handle p.inFlight.length, .handle p.inFlight.length],
      ⟨p.interface, p.settings.server.host, p.settings.server.port⟩, ?_⟩
    rw [execute_withdraw served connected]
    simp [execute, advance, advertise, isOver, connecting, handle, Program.send,
      registration, interface, List.eraseIdx_append_of_length_le]
  · refine ⟨[.look, .announce true, .handle p.inFlight.length, .handle p.inFlight.length],
      ⟨p.interface, p.settings.server.host, p.settings.server.port⟩, ?_⟩
    rw [execute_withdraw served connected]
    simp [execute, advance, advertise, isOver, waiting, listening, handle, Program.send, addLines,
      registration, interface, List.eraseIdx_append_of_length_le]
  · obtain ⟨index, bound, found⟩ := List.getElem_of_mem member
    refine ⟨[.handle p.inFlight.length, .handle index], r, ?_⟩
    rw [execute_withdraw served connected]
    simp [execute, advance, handle, Program.send, bound, found,
      List.eraseIdx_append_of_length_le]

/-- Once the broker has handled the withdrawal it handles no registration, whatever happens,
if and only if none is pending when the withdrawal is sent. Unless serving came down there is no
listener left for the announcement to look at. -/
theorem withdrawal_lasts_iff (settings : Settings) (endpoint : Net.Endpoint)
    (schedule : List Action) (conclusion : Conclusion) :
    let p := (launch settings endpoint).execute schedule
    p.phase = .served conclusion → p.client.isSome →
      ((∀ later, StaysWithdrawn (p.execute (.withdraw true :: later)).handled ∧
          (p.withdrawal ∈ (p.execute (.withdraw true :: later)).handled →
            leftRegistered (p.execute (.withdraw true :: later)).handled = false)) ↔
        ¬ p.Pending) ∧
      ∀ outcome, conclusion = .returned outcome → p.server.published = none := by
  intro p served connected
  obtain ⟨valid, course⟩ := run_course settings endpoint schedule
  have ended : p.serving? = some conclusion := course.served conclusion (by rw [served]; rfl)
  refine ⟨⟨?_, ?_⟩, fun outcome returned => ?_⟩
  · intro lasts pending
    obtain ⟨later, r, handled⟩ := pending.overtaken served connected
    exact (lasts later).1 p.handled p.interface [.register r] handled r (by simp)
  · intro notPending later
    have quiet : p.Quiet := ⟨valid, by simp [ended], notPending⟩
    obtain ⟨more, handled, none⟩ := quiet.execute (.withdraw true :: later)
    -- Serving has just ended, so no withdrawal was sent before.
    have noWithdrawal : ∀ i, .unregister i ∉ p.handled := by
      intro i member
      have sent := valid.delivery.subset (List.mem_append_left _ member)
      exact valid.notWithdrawn served _ sent rfl
    have stays : StaysWithdrawn (p.execute (.withdraw true :: later)).handled :=
      handled ▸ staysWithdrawn_append noWithdrawal none
    exact ⟨stays, stays.leftRegistered_eq_false⟩
  · exact unpublished_of_returned valid (returned ▸ ended)

/-- A service that was registered before the interrupt stays withdrawn. -/
theorem withdrawal_lasts_behind_answer :
    let p := (launch .default ⟨.v4 127 0 0 1, 6004⟩).execute
      [.wait, .serve (.describe none), .serve (.bind ⟨.v4 127 0 0 1, 6004⟩), .serve .advance,
        .serve .advance, .serve .advance, .look, .announce true, .handle 0,
        .endAnnouncement (.answered .accept), .interrupt, .heed, .stop, .serve .advance,
        .serve .advance, .serve .advance, .serve .advance, .join]
    p.phase = .served (.returned .stopped) ∧ p.client.isSome ∧ p.handled = [p.registration] ∧
      ∀ later, StaysWithdrawn (p.execute (.withdraw true :: later)).handled := by
  intro p
  have served : p.phase = .served (.returned .stopped) := by rfl
  have connected : p.client.isSome := by decide +kernel
  have idle : p.announcement = .finished ∧ p.inFlight = [] := by decide +kernel
  have notPending : ¬ p.Pending := by simp [Pending, idle]
  have lasts := (withdrawal_lasts_iff _ _ _ _ served connected).1.mpr notPending
  exact ⟨served, connected, by decide +kernel, fun later => (lasts later).1⟩

/-- The registration was sent first but is handled last, after the program has ended well. -/
theorem withdrawal_overtaken :
    let p := (launch .default ⟨.v4 127 0 0 1, 6004⟩).execute
      [.wait, .serve (.describe none), .serve (.bind ⟨.v4 127 0 0 1, 6004⟩), .serve .advance,
        .serve .advance, .serve .advance, .look, .announce true, .interrupt, .heed, .stop,
        .serve .advance, .serve .advance, .serve .advance, .serve .advance, .join,
        .withdraw true, .handle 1, .endWithdrawal (.answered .accept), .exit, .handle 0]
    p.phase = .exited none ∧ ¬ StaysWithdrawn p.handled ∧ leftRegistered p.handled = true := by
  intro p
  have handled : p.handled = [p.withdrawal, p.registration] := by decide +kernel
  refine ⟨by rfl, ?_, by rw [handled]; rfl⟩
  intro stays
  exact stays [] p.interface [p.registration] handled _ (List.mem_singleton.mpr rfl)

/-! The withdrawal of what was not announced. -/

/-- Every withdrawal is of an interface for which a registration was sent before. -/
def OnlyAnnounced (sent : List Request) : Prop :=
  ∀ before interface later, sent = before ++ .unregister interface :: later →
    ∃ r, .register r ∈ before ∧ r.interface = interface

/-- What is withdrawn was announced if and only if a registration was sent by the end of
serving; none was if the server never listened. -/
theorem withdrawal_announced_iff (settings : Settings) (endpoint : Net.Endpoint)
    (schedule : List Action) (conclusion : Conclusion) :
    let p := (launch settings endpoint).execute schedule
    p.phase = .served conclusion → p.client.isSome →
      (OnlyAnnounced (p.advance (.withdraw true)).sent ↔ ∃ r, .register r ∈ p.sent) ∧
      (p.server.listeners = [] → ¬ ∃ r, .register r ∈ p.sent) := by
  intro p served connected
  have valid : p.Invariant := run_invariant settings endpoint schedule
  have sent : (p.advance (.withdraw true)).sent = p.sent ++ [p.withdrawal] :=
    congrArg Program.sent (execute_withdraw served connected [])
  have noWithdrawal : ∀ i, .unregister i ∉ p.sent := by
    intro i member
    exact valid.notWithdrawn served _ member rfl
  refine ⟨?_, ?_⟩
  · rw [sent]
    constructor
    · intro only
      obtain ⟨r, member, _⟩ := only p.sent p.interface [] rfl
      exact ⟨r, member⟩
    · rintro ⟨r, member⟩ before interface later split
      obtain ⟨more, rfl, tail⟩ := split_behind noWithdrawal split
      obtain ⟨rfl, same⟩ : more = [] ∧ p.withdrawal = .unregister interface := by
        cases more <;> simp_all
      have about : r.interface = p.interface := by
        rcases valid.sent _ member with equal | equal <;> cases equal
        rfl
      refine ⟨r, by simpa using member, ?_⟩
      cases same
      exact about
  · rintro silent ⟨r, member⟩
    have called := valid.registers r member
    refine valid.listened ?_ silent
    cases announcement : p.announcement <;>
      simp_all [Announcement.mayHaveCalled, Announcement.hasLooked]

/-- A port that is taken: another instance that has it loses its registration. -/
theorem withdrawal_announced_unbound :
    let p := (launch .default ⟨.v4 127 0 0 1, 6004⟩).execute
      [.wait, .serve (.describe none), .serve (.refuse "Address already in use"), .join]
    p.phase = .served (.returned (.unbound "Address already in use")) ∧ p.client.isSome ∧
      p.server.listeners = [] ∧ ¬ OnlyAnnounced (p.advance (.withdraw true)).sent := by
  intro p
  have served : p.phase = .served (.returned (.unbound "Address already in use")) := by rfl
  have connected : p.client.isSome := by decide +kernel
  have silent : p.server.listeners = [] := by decide +kernel
  obtain ⟨announced, unannounced⟩ := withdrawal_announced_iff _ _ _ _ served connected
  exact ⟨served, connected, silent, fun only => unannounced silent (announced.mp only)⟩

/-- The broker handles a withdrawal and never sees a registration. -/
theorem withdrawal_unannounced :
    let p := (launch .default ⟨.v4 127 0 0 1, 6004⟩).execute
      [.wait, .serve (.describe none), .serve (.refuse "Address already in use"), .join,
        .withdraw true, .handle 0, .endWithdrawal (.answered .accept), .exit]
    p.handled = [p.withdrawal] ∧ ¬ OnlyAnnounced p.sent := by
  intro p
  have sent : p.sent = [p.withdrawal] := by decide +kernel
  refine ⟨by decide +kernel, ?_⟩
  intro only
  obtain ⟨r, member, _⟩ := only [] p.interface [] sent
  cases member

end AggregateStage.Program
