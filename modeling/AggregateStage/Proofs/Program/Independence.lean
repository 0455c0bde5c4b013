import AggregateStage.Program.Run
import AggregateStage.Proofs.Program.Invariant

/-! The program beside its broker. A registration and a withdrawal are sent once at most, each
in its time, and by a program with a broker only; and neither they nor anything that the
broker does has a say in how the program serves and what it ends with. -/
namespace AggregateStage.Program

open Broker (Request)

variable {p after q : Program} {action : Action} {conclusion : Conclusion}

/-- How serving ended, once the main line has seen that and until it ends itself. -/
def Phase.served? : Phase → Option Conclusion
  | .served conclusion | .withdrawing conclusion | .withdrawn conclusion => some conclusion
  | _ => none

/-- What the program ends with when serving has ended in a way. -/
def failureOf : Conclusion → Option Failure
  | .returned .stopped => none
  | .returned outcome => some (.server outcome)
  | .crashed reason => some (.task reason)

/-! What every run keeps of its requests and of its end. -/

structure Course (p : Program) : Prop where
  served : ∀ conclusion, p.phase.served? = some conclusion → p.serving? = some conclusion
  /-- The main line ends with what serving ended with. -/
  exited : ∀ failure, p.phase = .exited failure →
    ∃ conclusion, p.serving? = some conclusion ∧ failure = failureOf conclusion
  announces : p.announcement ≠ .none → p.client.isSome = true
  sends : p.sent ≠ [] → p.client.isSome = true
  registersOnce : p.sent.countP Request.isRegister ≤ 1
  withdrawsOnce : p.sent.countP (fun request => !request.isRegister) ≤ 1

theorem launch_course (settings : Settings) (endpoint : Net.Endpoint) :
    (launch settings endpoint).Course where
  served := by simp [launch, Phase.served?]
  exited := by simp [launch]
  announces := by
    simp only [launch]
    split <;> simp [*]
  sends := by simp [launch]
  registersOnce := by simp [launch]
  withdrawsOnce := by simp [launch]

theorem Course.addLines (course : p.Course) (lines : List Log.Line) : (p.addLines lines).Course :=
  ⟨course.served, course.exited, course.announces, course.sends, course.registersOnce,
    course.withdrawsOnce⟩

theorem Course.withPhase (course : p.Course) {phase : Phase}
    (served : ∀ conclusion, phase.served? = some conclusion → p.serving? = some conclusion)
    (exited : ∀ failure, phase = .exited failure →
      ∃ conclusion, p.serving? = some conclusion ∧ failure = failureOf conclusion) :
    { p with phase := phase }.Course :=
  ⟨served, exited, course.announces, course.sends, course.registersOnce, course.withdrawsOnce⟩

theorem Course.withAnnouncement (course : p.Course) {announcement : Announcement}
    (begun : p.announcement ≠ .none) : { p with announcement := announcement }.Course :=
  ⟨course.served, course.exited, fun _ => course.announces begun, course.sends,
    course.registersOnce, course.withdrawsOnce⟩

/-- A server that moves on does not change how serving ended, if it had. -/
theorem Course.withServer (course : p.Course) {server : Server}
    (settled : p.serving?.isSome = true → (p.withServer server).serving? = p.serving?) :
    (p.withServer server).Course where
  served conclusion seen := by
    have ended := course.served conclusion seen
    exact (settled (by simp [ended])).trans ended
  exited failure gone := by
    obtain ⟨conclusion, ended, same⟩ := course.exited failure gone
    exact ⟨conclusion, (settled (by simp [ended])).trans ended, same⟩
  announces := course.announces
  sends := course.sends
  registersOnce := course.registersOnce
  withdrawsOnce := course.withdrawsOnce

theorem Course.send (course : p.Course) {request : Request} (connected : p.client.isSome = true)
    (new : ∀ other ∈ p.sent, other.isRegister ≠ request.isRegister) : (p.send request).Course := by
  refine ⟨course.served, course.exited, course.announces, fun _ => connected, ?_, ?_⟩
  all_goals
    simp only [Program.send, List.countP_append, List.countP_singleton]
    cases kind : request.isRegister
  · simpa using course.registersOnce
  · have none : p.sent.countP Request.isRegister = 0 := by
      simpa [List.countP_eq_zero, kind] using new
    simp [none]
  · have none : p.sent.countP (fun other => !other.isRegister) = 0 := by
      simpa [List.countP_eq_zero, kind] using new
    simp [none]
  · simpa using course.withdrawsOnce

/-- The announcement has not been sent before it asks. -/
theorem Invariant.unregistered (valid : p.Invariant) (connecting : p.announcement = .connecting) :
    ∀ request ∈ p.sent, request.isRegister ≠ true := by
  intro request member
  cases request with
  | register r =>
    have called := valid.registers r member
    simp [connecting, Announcement.mayHaveCalled] at called
  | unregister i => simp [Request.isRegister]

/-- Nothing has been withdrawn when serving has just ended. -/
theorem Invariant.notWithdrawn (valid : p.Invariant) (served : p.phase = .served conclusion) :
    ∀ request ∈ p.sent, request.isRegister ≠ false := by
  intro request member
  cases request with
  | register r => simp [Request.isRegister]
  | unregister i =>
    have withdrawn := valid.unregisters i member
    simp [served, Phase.mayHaveWithdrawn] at withdrawn

theorem Step.course (step : p.Step action after) (valid : p.Invariant) (course : p.Course) :
    after.Course := by
  cases step with
  | idle | signal => exact ⟨course.served, course.exited, course.announces, course.sends,
      course.registersOnce, course.withdrawsOnce⟩
  | wait | kill => exact course.withPhase (by simp [Phase.served?]) (by simp)
  | heed =>
    have moved : { p with phase := .interrupted }.Course :=
      course.withPhase (by simp [Phase.served?]) (by simp)
    exact ⟨moved.served, moved.exited, moved.announces, moved.sends, moved.registersOnce,
      moved.withdrawsOnce⟩
  | stop =>
    exact ⟨by simp [withServer, Phase.served?], by simp [withServer], course.announces,
      course.sends, course.registersOnce, course.withdrawsOnce⟩
  | failStop interrupted unheard =>
    -- The server has a receiver of its own, so somebody always hears.
    obtain ⟨phase, single⟩ := valid.single
    rw [single.toReflects.stop.1] at unheard
    contradiction
  | join awaited ended =>
    refine Course.addLines (course.withPhase (fun conclusion same => ?_) (by simp)) _
    rw [ended]
    exact same
  | withhold served =>
    refine course.withPhase (fun conclusion same => ?_) (by simp)
    exact course.served conclusion (by rw [served]; exact same)
  | @withdraw conclusion served connected =>
    have moved : { p with phase := .withdrawing conclusion }.Course :=
      course.withPhase (fun other same => course.served other (by rw [served]; exact same))
        (by simp)
    exact moved.send connected (valid.notWithdrawn served)
  | failWithdrawal served =>
    refine Course.addLines (course.withPhase (fun conclusion same => ?_) (by simp)) _
    exact course.served conclusion (by rw [served]; exact same)
  | endWithdrawal withdrawing =>
    refine Course.addLines (course.withPhase (fun conclusion same => ?_) (by simp)) _
    exact course.served conclusion (by rw [withdrawing]; exact same)
  | exit withdrawn | crash withdrawn =>
    refine course.withPhase (by simp [Phase.served?]) (fun failure same => ?_)
    cases same
    exact ⟨_, course.served _ (by rw [withdrawn]; rfl), rfl⟩
  | @fail outcome withdrawn failure =>
    refine Course.addLines (course.withPhase (by simp [Phase.served?]) (fun failure same => ?_)) _
    cases same
    refine ⟨.returned outcome, course.served _ (by rw [withdrawn]; rfl), ?_⟩
    cases outcome <;> first | rfl | contradiction
  | @serve step going =>
    refine course.withServer fun ended => ?_
    exact serving?_congr ((valid.serve step).2.1 ended)
  | look going waiting =>
    exact Course.addLines (course.withAnnouncement (by simp [waiting])) _
  | announce going connecting =>
    have begun : p.announcement ≠ .none := by simp [connecting]
    have moved : { p with announcement := .calling }.Course := course.withAnnouncement begun
    exact moved.send (course.announces begun) (valid.unregistered connecting)
  | failAnnouncement going connecting =>
    exact Course.addLines (course.withAnnouncement (by simp [connecting])) _
  | endAnnouncement going calling =>
    exact Course.addLines (course.withAnnouncement (by simp [calling])) _
  | handle => exact ⟨course.served, course.exited, course.announces, course.sends,
      course.registersOnce, course.withdrawsOnce⟩

theorem run_course (settings : Settings) (endpoint : Net.Endpoint) (schedule : List Action) :
    ((launch settings endpoint).execute schedule).Invariant ∧
      ((launch settings endpoint).execute schedule).Course :=
  execute_invariant (P := fun p => p.Invariant ∧ p.Course)
    (fun ⟨valid, course⟩ step => ⟨step.invariant valid, step.course valid course⟩)
    ⟨launch_invariant settings endpoint, launch_course settings endpoint⟩ schedule

/-! When requests are sent. -/

/-- A step sends nothing, the registration when the server has been seen to listen, or the
withdrawal when serving has been seen to end. -/
theorem Step.sends (step : p.Step action after) :
    after.sent = p.sent ∨
    (after.sent = p.sent ++ [p.registration] ∧ p.announcement = .connecting) ∨
    (after.sent = p.sent ++ [p.withdrawal] ∧ ∃ conclusion, p.phase = .served conclusion) := by
  cases step with
  | announce going connecting => exact .inr (.inl ⟨rfl, connecting⟩)
  | withdraw served => exact .inr (.inr ⟨rfl, _, served⟩)
  | _ => exact .inl rfl

theorem Step.timely (step : p.Step action after) (valid : p.Invariant) (course : p.Course)
    {request : Request} (sent : after.sent = p.sent ++ [request]) :
    (request.isRegister = true → p.server.listeners ≠ []) ∧
    (request.isRegister = false → ∃ conclusion, p.serving? = some conclusion) := by
  rcases step.sends with nothing | ⟨now, connecting⟩ | ⟨now, conclusion, served⟩
  · simp [nothing] at sent
  · obtain rfl : p.registration = request := by simpa [now] using sent
    refine ⟨fun _ => valid.listened (by simp [connecting, Announcement.hasLooked]), ?_⟩
    simp [registration, Request.isRegister]
  · obtain rfl : p.withdrawal = request := by simpa [now] using sent
    refine ⟨by simp [withdrawal, Request.isRegister], fun _ => ⟨conclusion, ?_⟩⟩
    exact course.served conclusion (by simp [served, Phase.served?])

/-! The program without its broker. -/

/-- Whether a step is one of serving, or of the main line before the withdrawal. -/
def Action.isLocal : Action → Bool
  | .wait | .interrupt | .heed | .stop | .join | .serve _ => true
  | _ => false

/-- What the main line goes by until serving has ended. -/
def core (p : Program) : Phase × Bool × Server := (p.phase, p.signalled, p.server)

theorem core_advance (near : action.isLocal = true) (same : q.core = p.core) :
    (q.advance action).core = (p.advance action).core := by
  rcases p with ⟨_, _, _, _, _, _, _, _, _, _⟩
  rcases q with ⟨_, _, phase, _, signalled, server, _, _, _, _⟩
  simp only [core, Prod.mk.injEq] at same
  obtain ⟨rfl, rfl, rfl⟩ := same
  cases action with
  | wait | interrupt | stop | serve step => cases phase <;> rfl
  | heed => cases phase <;> cases signalled <;> rfl
  | join =>
    cases ended : server.starts.head?.bind Conclusion.ofPhase? <;>
      cases phase <;> simp [core, advance, isOver, proceed, serving?, ended, addLines]
  | _ => cases near

/-- Once serving has been seen to end, the server is left as it is. -/
theorem Step.afterwards (step : p.Step action after) (valid : p.Invariant)
    (served : p.phase.hasServed = true) :
    after.phase.hasServed = true ∧ after.server = p.server := by
  have ended := valid.ended served
  cases step with
  | wait before | kill before | heed before | stop before | failStop before =>
    simp [before, Phase.hasServed] at served
  | join awaited => rcases awaited with before | before <;> simp [before, Phase.hasServed] at served
  | @serve step => exact ⟨served, (valid.serve step).2.1 ended⟩
  | withhold | withdraw | failWithdrawal | endWithdrawal | exit | fail | crash => exact ⟨rfl, rfl⟩
  | _ => exact ⟨served, rfl⟩

/-- No other step touches what the main line goes by before serving has ended. -/
theorem Step.aside (step : p.Step action after) (aside : action.isLocal = false) :
    after.core = p.core ∨ p.phase.hasServed = true := by
  cases step with
  | withhold served | withdraw served | failWithdrawal served | endWithdrawal served
  | exit served | fail served | crash served => simp [served, Phase.hasServed]
  | idle | look | announce | failAnnouncement | endAnnouncement | handle => exact .inl rfl
  | _ => cases aside

/-- The program beside one for which nothing but the local steps has happened. -/
def Beside (p q : Program) : Prop :=
  q.core = p.core ∨ (p.phase.hasServed = true ∧ q.phase.hasServed = true ∧ q.server = p.server)

theorem Beside.server (beside : p.Beside q) : q.server = p.server := by
  rcases beside with same | ⟨_, _, same⟩
  · exact congrArg (fun core => core.2.2) same
  · exact same

theorem Beside.together (beside : p.Beside q) (valid : p.Invariant) (valid' : q.Invariant)
    (near : action.isLocal = true) : (p.advance action).Beside (q.advance action) := by
  rcases beside with same | ⟨served, served', same⟩
  · exact .inl (core_advance near same)
  · obtain ⟨still, server⟩ := (p.advance_step action).afterwards valid served
    obtain ⟨still', server'⟩ := (q.advance_step action).afterwards valid' served'
    exact .inr ⟨still, still', server'.trans (same.trans server.symm)⟩

theorem Beside.alone (beside : p.Beside q) (valid : p.Invariant)
    (aside : action.isLocal = false) : (p.advance action).Beside q := by
  have step := p.advance_step action
  have later (served : p.phase.hasServed = true) (served' : q.phase.hasServed = true) :
      (p.advance action).Beside q := by
    obtain ⟨still, server⟩ := step.afterwards valid served
    exact .inr ⟨still, served', beside.server.trans server.symm⟩
  rcases beside with same | ⟨served, served', _⟩
  · rcases step.aside aside with unmoved | served
    · exact .inl (same.trans unmoved.symm)
    · have phase : q.phase = p.phase := congrArg Prod.fst same
      exact later served (phase ▸ served)
  · exact later served served'

theorem Beside.execute (schedule : List Action) {p q : Program} (beside : p.Beside q)
    (valid : p.Invariant) (valid' : q.Invariant) :
    (p.execute schedule).Beside (q.execute (schedule.filter Action.isLocal)) := by
  induction schedule generalizing p q with
  | nil => exact beside
  | cons action schedule ih =>
    have next := (p.advance_step action).invariant valid
    cases near : action.isLocal with
    | true =>
      rw [List.filter_cons_of_pos near]
      exact ih (beside.together valid valid' near) next ((q.advance_step action).invariant valid')
    | false =>
      rw [List.filter_cons_of_neg (by simp [near])]
      exact ih (beside.alone valid near) next valid'

/-! Runs from the start, with the checks before them. -/

/-- A run: the checks and, if they pass, what a schedule makes of the program. -/
def run (arguments : Arguments) (environment : List (String × String)) (file : Option String)
    (schedule : List Action) : Except Failure Program :=
  (start arguments environment file).2.map (execute schedule)

/-- What a run has sent to the broker. -/
def requests : Except Failure Program → List Request
  | .ok p => p.sent
  | .error _ => []

/-- How a run has ended: with a failure or none. It has not while it goes on, nor if it was
killed. -/
def result? : Except Failure Program → Option (Option Failure)
  | .ok p =>
    match p.phase with
    | .exited failure => some failure
    | _ => none
  | .error failure => some (some failure)

theorem result?_ok {failure : Option Failure} (exited : result? (.ok p) = some failure) :
    p.phase = .exited failure := by
  cases phase : p.phase <;> simp_all [result?]

/-- How the checks failed or serving ended. -/
def ended? : Except Failure Program → Option (Except Failure Conclusion)
  | .ok p => p.serving?.map .ok
  | .error failure => some (.error failure)

/-- What a run is to end with. -/
def verdict : Except Failure Conclusion → Option Failure
  | .ok conclusion => failureOf conclusion
  | .error failure => some failure

theorem start_eq_ok {arguments : Arguments} {environment : List (String × String)}
    {file : Option String} (started : (start arguments environment file).2 = .ok p) :
    ∃ settings endpoint, Settings.load environment file = .ok settings ∧
      (settings.withArguments arguments).endpoint = .ok endpoint ∧
      p = launch (settings.withArguments arguments) endpoint := by
  unfold start at started
  cases loaded : Settings.load environment file with
  | error fault => simp [loaded] at started
  | ok settings =>
    cases found : (settings.withArguments arguments).endpoint with
    | error fault => simp [loaded, found] at started
    | ok endpoint =>
      simp only [loaded, found, Except.ok.injEq] at started
      exact ⟨settings, endpoint, rfl, found, started.symm⟩

/-- There is a client only of a broker that is wanted and has an address. -/
theorem launch_client {settings : Settings} {endpoint : Net.Endpoint}
    (connected : (launch settings endpoint).client.isSome = true) :
    settings.broker.enabled = true ∧
    ∃ client, Broker.Client.ofAddress settings.broker.address settings.broker.timeout =
      .ok client := by
  have connected : (connectBroker settings.broker).1.isSome = true := connected
  unfold connectBroker at connected
  cases enabled : settings.broker.enabled with
  | false => simp [enabled] at connected
  | true =>
    cases reached : Broker.Client.ofAddress settings.broker.address settings.broker.timeout with
    | ok client => exact ⟨rfl, client, rfl⟩
    | error fault => simp [enabled, reached] at connected

theorem Step.client (step : p.Step action after) : after.client = p.client := by
  cases step <;> rfl

theorem execute_client (schedule : List Action) (p : Program) :
    (p.execute schedule).client = p.client :=
  execute_invariant (P := fun after => after.client = p.client)
    (fun same step => step.client.trans same) rfl schedule

/-- What the main line does behind serving when the broker is not there or not any more. -/
def forsaken : List Action := [.withdraw false, .endWithdrawal (.failed .unreachable), .exit]

theorem execute_forsaken (served : p.phase.served? = some conclusion) :
    (p.execute forsaken).phase = .exited (failureOf conclusion) := by
  have exits {q : Program} (withdrawn : q.phase = .withdrawn conclusion) :
      (q.advance .exit).phase = .exited (failureOf conclusion) := by
    cases conclusion with
    | returned outcome =>
      cases outcome <;> simp [advance, isOver, proceed, withdrawn, addLines, failureOf]
    | crashed reason => simp [advance, isOver, proceed, withdrawn, failureOf]
  refine exits ?_
  cases phase : p.phase <;>
    simp only [phase, Phase.served?, Option.some.injEq, reduceCtorEq] at served
  all_goals cases served
  · cases alone : p.client <;> simp [advance, isOver, proceed, phase, alone, addLines]
  · simp [advance, isOver, proceed, phase, addLines, canEnd]
  · simp [advance, isOver, proceed, phase]

/-- What a run that was launched has sent, to whom, and when it sends more. -/
theorem launch_sends (settings : Settings) (endpoint : Net.Endpoint) (schedule : List Action) :
    let p := (launch settings endpoint).execute schedule
    (p.sent ≠ [] → settings.broker.enabled = true ∧
      ∃ client, Broker.Client.ofAddress settings.broker.address settings.broker.timeout =
        .ok client) ∧
    ∀ action, (p.advance action).sent = p.sent ∨
      ∃ request, (p.advance action).sent = p.sent ++ [request] ∧
        (request.isRegister = true → p.server.listeners ≠ []) ∧
        (request.isRegister = false → ∃ conclusion, p.serving? = some conclusion) := by
  intro p
  obtain ⟨valid, course⟩ := run_course settings endpoint schedule
  refine ⟨fun sent => ?_, fun action => ?_⟩
  · have connected := course.sends sent
    rw [execute_client] at connected
    exact launch_client connected
  · have step := p.advance_step action
    rcases step.sends with nothing | ⟨sent, _⟩ | ⟨sent, _⟩
    · exact .inl nothing
    all_goals exact .inr ⟨_, sent, step.timely valid course sent⟩

/-- What the main line of a run that was launched goes by is no matter of the broker. -/
theorem launch_apart (settings : Settings) (endpoint : Net.Endpoint) (schedule : List Action) :
    let p := (launch settings endpoint).execute schedule
    let apart := (launch settings endpoint).execute (schedule.filter Action.isLocal)
    apart.server = p.server ∧
    ∀ failure, p.phase = .exited failure → apart.serving?.map failureOf = some failure := by
  intro p apart
  have valid := launch_invariant settings endpoint
  have server : apart.server = p.server :=
    (Beside.execute schedule (.inl rfl) valid valid).server
  refine ⟨server, fun failure exited => ?_⟩
  obtain ⟨conclusion, ended, same⟩ := (run_course settings endpoint schedule).2.exited failure exited
  rw [serving?_congr server, ended, same]
  rfl

/-- Registration neither gates nor outruns serving. Requests are sent by a run that has a
broker to send them to, one of each kind at most, the registration by one that has listened and
the withdrawal by one that has ended serving. With everything left out that the announcement, the
withdrawal and the broker do, the server goes through the same; and a run that ends, ends with
what its checks or its serving came to there. For its end it needs no broker. -/
theorem broker_has_no_say (arguments : Arguments) (environment : List (String × String))
    (file : Option String) (schedule : List Action) :
    let course := run arguments environment file schedule
    let apart := run arguments environment file (schedule.filter Action.isLocal)
    (requests course ≠ [] → ∃ settings endpoint client,
      Settings.load environment file = .ok settings ∧
      (settings.withArguments arguments).endpoint = .ok endpoint ∧
      (settings.withArguments arguments).broker.enabled = true ∧
      Broker.Client.ofAddress (settings.withArguments arguments).broker.address
        (settings.withArguments arguments).broker.timeout = .ok client) ∧
    (requests course).countP Request.isRegister ≤ 1 ∧
    (requests course).countP (fun request => !request.isRegister) ≤ 1 ∧
    (∀ p action, course = .ok p → (p.advance action).sent = p.sent ∨
      ∃ request, (p.advance action).sent = p.sent ++ [request] ∧
        (request.isRegister = true → p.server.listeners ≠ []) ∧
        (request.isRegister = false → ∃ conclusion, p.serving? = some conclusion)) ∧
    apart.map Program.server = course.map Program.server ∧
    (∀ failure, result? course = some failure →
      (ended? apart).map verdict = some failure) ∧
    ∀ p conclusion, course = .ok p → p.phase.served? = some conclusion →
      result? (.ok (p.execute forsaken)) = some (failureOf conclusion) := by
  intro course apart
  cases started : (start arguments environment file).2 with
  | error fault =>
    have failed (schedule : List Action) :
        run arguments environment file schedule = .error fault := by
      simp [run, started, Except.map]
    simp [course, apart, failed, requests, result?, ended?, verdict]
  | ok first =>
    obtain ⟨settings, endpoint, loaded, found, rfl⟩ := start_eq_ok started
    have launched (schedule : List Action) : run arguments environment file schedule =
        .ok ((launch (settings.withArguments arguments) endpoint).execute schedule) := by
      simp [run, started, Except.map]
    obtain ⟨sends, timely⟩ := launch_sends (settings.withArguments arguments) endpoint schedule
    obtain ⟨server, ends⟩ := launch_apart (settings.withArguments arguments) endpoint schedule
    have kept := (run_course (settings.withArguments arguments) endpoint schedule).2
    simp only [course, apart, launched]
    refine ⟨fun sent => ?_, kept.registersOnce, kept.withdrawsOnce, ?_, ?_, ?_, ?_⟩
    · obtain ⟨enabled, client, reached⟩ := sends sent
      exact ⟨settings, endpoint, client, loaded, found, enabled, reached⟩
    · rintro p action ⟨⟩
      exact timely action
    · exact congrArg Except.ok server
    · intro failure exited
      simpa [ended?, verdict, Function.comp_def] using ends failure (result?_ok exited)
    · rintro p conclusion ⟨⟩ served
      simp [result?, execute_forsaken served]

/-- A run that registers, is interrupted and withdraws, with a broker that takes the withdrawal
first and refuses it. -/
theorem broker_has_no_say_refused :
    let schedule : List Action :=
      [.wait, .serve (.describe none), .serve (.bind ⟨.v4 127 0 0 1, 6004⟩), .serve .advance,
        .serve .advance, .serve .advance, .look, .announce true, .interrupt, .heed, .stop,
        .serve .advance, .serve .advance, .serve .advance, .serve .advance, .join,
        .withdraw true, .handle 1, .endWithdrawal (.answered (.refuse ⟨.internal, "full"⟩)),
        .handle 0, .exit]
    let course := run .none [] none schedule
    (requests course).map Request.isRegister = [true, false] ∧
    (∃ settings, Settings.load [] none = .ok settings ∧
      (settings.withArguments .none).broker.enabled = true) ∧
    result? course = some none ∧
    (ended? (run .none [] none (schedule.filter Action.isLocal))).map verdict = some none := by
  intro schedule course
  obtain ⟨wanted, _, _, _, _, ends, _⟩ := broker_has_no_say .none [] none schedule
  have kinds : (requests course).map Request.isRegister = [true, false] := by decide +kernel
  have exited : result? course = some none := by rfl
  obtain ⟨settings, _, _, loaded, _, enabled, _⟩ := wanted fun none => by
    rw [show requests course = [] from none] at kinds
    cases kinds
  exact ⟨kinds, ⟨settings, loaded, enabled⟩, exited, ends none exited⟩

end AggregateStage.Program
