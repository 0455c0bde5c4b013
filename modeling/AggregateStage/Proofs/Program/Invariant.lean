import Mathlib.Data.List.Perm.Basic
import AggregateStage.Proofs.Program.Step

/-! What every run keeps: its one serving and the listener of it, and which requests can
have been sent by where the main line and the announcement are. -/
namespace AggregateStage.Program

variable {p after : Program} {action : Action}

/-- The main line has seen serving end. -/
def Phase.hasServed : Phase → Bool
  | .served _ | .withdrawing _ | .withdrawn _ | .exited _ => true
  | _ => false

/-- The main line may have asked for the withdrawal. -/
def Phase.mayHaveWithdrawn : Phase → Bool
  | .withdrawing _ | .withdrawn _ | .exited _ => true
  | _ => false

/-- The announcement has seen the server listen. -/
def Announcement.hasLooked : Announcement → Bool
  | .connecting | .calling | .finished => true
  | _ => false

/-- The announcement may have asked for the registration. -/
def Announcement.mayHaveCalled : Announcement → Bool
  | .calling | .finished => true
  | _ => false

structure Invariant (p : Program) : Prop where
  single : ∃ phase, p.server.Single phase
  /-- Serving has ended by the time the main line says so. -/
  ended : p.phase.hasServed = true → p.serving?.isSome
  /-- What the server listens on is known when it is announced. -/
  listened : p.announcement.hasLooked = true → p.server.listeners ≠ []
  sent : ∀ request ∈ p.sent, request = p.registration ∨ request = p.withdrawal
  registers : ∀ r, .register r ∈ p.sent → p.announcement.mayHaveCalled = true
  unregisters : ∀ i, .unregister i ∈ p.sent → p.phase.mayHaveWithdrawn = true
  /-- Whatever was sent is under way or handled, and nothing else. -/
  delivery : (p.handled ++ p.inFlight).Perm p.sent

theorem serving?_eq {phase : Server.Phase} (single : p.server.Single phase) :
    p.serving? = Conclusion.ofPhase? phase := by
  simp [serving?, single.starts]

/-- Serving has ended when its start does nothing more. -/
theorem isSome_ofPhase? (phase : Server.Phase) :
    (Conclusion.ofPhase? phase).isSome = phase.isOver := by
  cases phase <;> rfl

/-- How serving ended is a matter of the server. -/
theorem serving?_congr {q : Program} (same : q.server = p.server) : q.serving? = p.serving? := by
  rw [serving?, serving?, same]

theorem launch_invariant (settings : Settings) (endpoint : Net.Endpoint) :
    (launch settings endpoint).Invariant where
  single := ⟨.describing, Server.single_create _⟩
  ended := by simp [launch, Phase.hasServed]
  listened := by
    simp only [launch]
    split <;> simp [Announcement.hasLooked]
  sent := by simp [launch]
  registers := by simp [launch]
  unregisters := by simp [launch]
  delivery := .refl _

/-- Serving that goes on leaves the server with one start, and does not undo its end. -/
theorem Invariant.serve (valid : p.Invariant) (step : Server.Step) :
    (∃ phase, (p.server.act (.step 0 step)).Single phase) ∧
    (p.serving?.isSome → p.server.act (.step 0 step) = p.server) ∧
    p.server.listeners <+: (p.server.act (.step 0 step)).listeners := by
  obtain ⟨phase, single⟩ := valid.single
  obtain ⟨next, turn⟩ := Server.step_turn (show p.server.starts[0]? = some phase by
    rw [single.starts]; rfl) step
  refine ⟨⟨next, Server.Turn.inTurn turn single⟩, ?_, turn.listeners⟩
  intro ended
  rw [serving?_eq single, isSome_ofPhase?] at ended
  exact (turn.still ended).2

theorem Invariant.addLines (valid : p.Invariant) (lines : List Log.Line) :
    (p.addLines lines).Invariant :=
  ⟨valid.single, valid.ended, valid.listened, valid.sent, valid.registers, valid.unregisters,
    valid.delivery⟩

theorem Invariant.withSignalled (valid : p.Invariant) (signalled : Bool) :
    { p with signalled := signalled }.Invariant :=
  ⟨valid.single, valid.ended, valid.listened, valid.sent, valid.registers, valid.unregisters,
    valid.delivery⟩

theorem Invariant.withPhase (valid : p.Invariant) {phase : Phase}
    (ended : phase.hasServed = true → p.serving?.isSome)
    (forward : p.phase.mayHaveWithdrawn = true → phase.mayHaveWithdrawn = true) :
    { p with phase := phase }.Invariant :=
  ⟨valid.single, ended, valid.listened, valid.sent, valid.registers,
    fun i sent => forward (valid.unregisters i sent), valid.delivery⟩

theorem Invariant.withAnnouncement (valid : p.Invariant) {announcement : Announcement}
    (listened : announcement.hasLooked = true → p.server.listeners ≠ [])
    (forward : p.announcement.mayHaveCalled = true → announcement.mayHaveCalled = true) :
    { p with announcement := announcement }.Invariant :=
  ⟨valid.single, valid.ended, listened, valid.sent,
    fun r sent => forward (valid.registers r sent), valid.unregisters, valid.delivery⟩

theorem Invariant.send (valid : p.Invariant) {request : Broker.Request}
    (possible : request = p.registration ∧ p.announcement.mayHaveCalled = true ∨
      request = p.withdrawal ∧ p.phase.mayHaveWithdrawn = true) :
    (p.send request).Invariant where
  single := valid.single
  ended := valid.ended
  listened := valid.listened
  sent other sent := by
    rcases List.mem_append.mp sent with earlier | now
    · exact valid.sent other earlier
    · obtain rfl := List.mem_singleton.mp now
      exact possible.imp And.left And.left
  registers r sent := by
    rcases List.mem_append.mp sent with earlier | now
    · exact valid.registers r earlier
    · obtain rfl := List.mem_singleton.mp now
      rcases possible with ⟨_, called⟩ | ⟨equal, _⟩
      · exact called
      · cases equal
  unregisters i sent := by
    rcases List.mem_append.mp sent with earlier | now
    · exact valid.unregisters i earlier
    · obtain rfl := List.mem_singleton.mp now
      rcases possible with ⟨equal, _⟩ | ⟨_, withdrawn⟩
      · cases equal
      · exact withdrawn
  delivery := by
    simp only [Program.send, ← List.append_assoc]
    exact valid.delivery.append_right _

theorem Invariant.handle (valid : p.Invariant) {request : Broker.Request} {index : Nat}
    (found : p.inFlight[index]? = some request) :
    { p with
      inFlight := p.inFlight.eraseIdx index
      handled := p.handled ++ [request] }.Invariant := by
  refine ⟨valid.single, valid.ended, valid.listened, valid.sent, valid.registers,
    valid.unregisters, ?_⟩
  obtain ⟨bound, rfl⟩ := List.getElem?_eq_some_iff.mp found
  refine List.Perm.trans ?_ valid.delivery
  rw [List.append_assoc]
  exact (List.getElem_cons_eraseIdx_perm bound).append_left _

theorem Step.invariant (step : p.Step action after) (valid : p.Invariant) : after.Invariant := by
  cases step with
  | idle => exact valid
  | wait launched | kill launched =>
    exact valid.withPhase (by simp [Phase.hasServed]) (by simp [launched, Phase.mayHaveWithdrawn])
  | signal => exact valid.withSignalled true
  | heed waiting =>
    have moved : { p with phase := .interrupted }.Invariant :=
      valid.withPhase (by simp [Phase.hasServed]) (by simp [waiting, Phase.mayHaveWithdrawn])
    exact (moved.withSignalled false).addLines _
  | stop interrupted =>
    have moved : { p with phase := .stopping }.Invariant :=
      valid.withPhase (by simp [Phase.hasServed]) (by simp [interrupted, Phase.mayHaveWithdrawn])
    obtain ⟨phase, single⟩ := valid.single
    exact ⟨⟨phase, single.stop⟩, by simp [withServer, Phase.hasServed],
      fun looked => p.server.stop_listeners ▸ moved.listened looked, moved.sent,
      moved.registers, moved.unregisters, moved.delivery⟩
  | failStop interrupted unheard =>
    -- The server has a receiver of its own, so somebody always hears.
    obtain ⟨phase, single⟩ := valid.single
    rw [single.toReflects.stop.1] at unheard
    contradiction
  | join awaited ended =>
    refine Invariant.addLines (valid.withPhase (fun _ => by simp [ended]) ?_) _
    rcases awaited with phase | phase <;> simp [phase, Phase.mayHaveWithdrawn]
  | withhold served =>
    exact valid.withPhase (fun _ => valid.ended (by simp [served, Phase.hasServed]))
      (fun _ => rfl)
  | withdraw served =>
    have ended := valid.ended (by simp [served, Phase.hasServed])
    exact Invariant.send (valid.withPhase (fun _ => ended) (fun _ => rfl)) (.inr ⟨rfl, rfl⟩)
  | failWithdrawal served =>
    exact Invariant.addLines (valid.withPhase
      (fun _ => valid.ended (by simp [served, Phase.hasServed])) (fun _ => rfl)) _
  | endWithdrawal withdrawing =>
    exact Invariant.addLines (valid.withPhase
      (fun _ => valid.ended (by simp [withdrawing, Phase.hasServed])) (fun _ => rfl)) _
  | exit withdrawn | crash withdrawn =>
    exact valid.withPhase (fun _ => valid.ended (by simp [withdrawn, Phase.hasServed]))
      (fun _ => rfl)
  | fail withdrawn =>
    exact Invariant.addLines (valid.withPhase
      (fun _ => valid.ended (by simp [withdrawn, Phase.hasServed])) (fun _ => rfl)) _
  | @serve step going =>
    obtain ⟨single, settled, listeners⟩ := valid.serve step
    refine ⟨single, ?_, ?_, valid.sent, valid.registers, valid.unregisters, valid.delivery⟩
    · intro served
      have ended := valid.ended served
      have same : (p.withServer (p.server.act (.step 0 step))).serving? = p.serving? :=
        serving?_congr (settled ended)
      rwa [same]
    -- The listeners only grow, so none now means none before.
    · intro looked empty
      have none := listeners.eq_of_length_le (by simp [withServer] at empty; simp [empty])
      exact valid.listened looked (none.trans empty)
  | look going waiting listening =>
    refine Invariant.addLines (valid.withAnnouncement (fun _ => ?_)
      (by simp [waiting, Announcement.mayHaveCalled])) _
    obtain ⟨phase, single⟩ := valid.single
    rw [single.published] at listening
    exact single.bound (Server.Phase.hasBound_of_isPublished listening)
  | announce going connecting =>
    have listened := valid.listened (by simp [connecting, Announcement.hasLooked])
    exact Invariant.send (valid.withAnnouncement (fun _ => listened) (fun _ => rfl))
      (.inl ⟨rfl, rfl⟩)
  | failAnnouncement going connecting =>
    have listened := valid.listened (by simp [connecting, Announcement.hasLooked])
    exact Invariant.addLines (valid.withAnnouncement (fun _ => listened) (fun _ => rfl)) _
  | endAnnouncement going calling =>
    have listened := valid.listened (by simp [calling, Announcement.hasLooked])
    exact Invariant.addLines (valid.withAnnouncement (fun _ => listened) (fun _ => rfl)) _
  | handle found => exact valid.handle found

theorem run_invariant (settings : Settings) (endpoint : Net.Endpoint) (schedule : List Action) :
    ((launch settings endpoint).execute schedule).Invariant :=
  execute_invariant (fun valid step => step.invariant valid) (launch_invariant settings endpoint)
    schedule

end AggregateStage.Program
