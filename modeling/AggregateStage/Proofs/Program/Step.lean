import AggregateStage.Program.Step
import AggregateStage.Proofs.Server.Start

/-! The steps of a run as a relation. `advance_step` is the only place that opens the step
function; what a run keeps is proved case by case on the relation. -/
namespace AggregateStage.Program

/-- Everything that one step can do to a run. -/
inductive Step (p : Program) : Action → Program → Prop where
  | idle {action : Action} : Step p action p
  | wait (launched : p.phase = .launched) : Step p .wait { p with phase := .waiting }
  | kill (launched : p.phase = .launched) : Step p .interrupt { p with phase := .killed }
  | signal (going : p.isOver = false) (caught : p.phase ≠ .launched) :
      Step p .interrupt { p with signalled := true }
  | heed (waiting : p.phase = .waiting) (signalled : p.signalled = true) :
      Step p .heed ({ p with phase := .interrupted, signalled := false }.addLines
        [⟨.info, .program, "Received shutdown signal", []⟩])
  | stop (interrupted : p.phase = .interrupted) (heard : p.server.stop.2 = true) :
      Step p .stop ({ p with phase := .stopping }.withServer p.server.stop.1)
  | failStop (interrupted : p.phase = .interrupted) (unheard : p.server.stop.2 = false) :
      Step p .stop ({ p with phase := .exited (some .unheard) }.withServer p.server.stop.1)
  | join (awaited : p.phase = .waiting ∨ p.phase = .stopping)
      (ended : p.serving? = some conclusion) : Step p .join
        ({ p with phase := .served conclusion }.addLines (p.requestLines p.withdrawal))
  | withhold (served : p.phase = .served conclusion) (alone : p.client = none) :
      Step p (.withdraw reachable) { p with phase := .withdrawn conclusion }
  | withdraw (served : p.phase = .served conclusion) (connected : p.client.isSome) :
      Step p (.withdraw true) ({ p with phase := .withdrawing conclusion }.send p.withdrawal)
  | failWithdrawal (served : p.phase = .served conclusion) (connected : p.client.isSome) :
      Step p (.withdraw false) ({ p with phase := .withdrawn conclusion }.addLines
        [p.withdrawal.outcomeLine (some (Broker.Fault.message .unreachable))])
  | endWithdrawal {ending : Ending} (withdrawing : p.phase = .withdrawing conclusion)
      (possible : p.canEnd p.withdrawal ending = true) :
      Step p (.endWithdrawal ending) ({ p with phase := .withdrawn conclusion }.addLines
        [p.withdrawal.outcomeLine ending.failure?])
  | exit (withdrawn : p.phase = .withdrawn (.returned .stopped)) :
      Step p .exit { p with phase := .exited none }
  | fail (withdrawn : p.phase = .withdrawn (.returned outcome)) (failure : outcome ≠ .stopped) :
      Step p .exit ({ p with phase := .exited (some (.server outcome)) }.addLines
        [⟨.error, .program, "gRPC server failed", [⟨"error", .text outcome.message⟩]⟩])
  | crash (withdrawn : p.phase = .withdrawn (.crashed reason)) :
      Step p .exit { p with phase := .exited (some (.task reason)) }
  | serve {step : Server.Step} (going : p.isOver = false) :
      Step p (.serve step) (p.withServer (p.server.act (.step 0 step)))
  | look (going : p.isOver = false) (waiting : p.announcement = .waiting)
      (listening : p.server.published.isSome) : Step p .look
        ({ p with announcement := .connecting }.addLines (p.requestLines p.registration))
  | announce (going : p.isOver = false) (connecting : p.announcement = .connecting) :
      Step p (.announce true) ({ p with announcement := .calling }.send p.registration)
  | failAnnouncement (going : p.isOver = false) (connecting : p.announcement = .connecting) :
      Step p (.announce false) ({ p with announcement := .finished }.addLines
        [p.registration.outcomeLine (some (Broker.Fault.message .unreachable))])
  | endAnnouncement {ending : Ending} (going : p.isOver = false)
      (calling : p.announcement = .calling) (possible : p.canEnd p.registration ending = true) :
      Step p (.endAnnouncement ending) ({ p with announcement := .finished }.addLines
        [p.registration.outcomeLine ending.failure?])
  | handle {index : Nat} (found : p.inFlight[index]? = some request) :
      Step p (.handle index) { p with
        inFlight := p.inFlight.eraseIdx index
        handled := p.handled ++ [request] }

variable {p : Program} {action : Action}

theorem proceed_step (p : Program) (going : p.isOver = false) (action : Action) :
    p.Step action (p.proceed action) := by
  cases action
  all_goals dsimp only [proceed]
  all_goals try exact .idle
  case wait =>
    split
    · exact .wait ‹_›
    · exact .idle
  case interrupt =>
    split
    · exact .kill ‹_›
    · exact .signal going ‹_›
  case heed =>
    split
    · split
      · exact .heed ‹_› ‹_›
      · exact .idle
    · exact .idle
  case stop =>
    split
    · next interrupted =>
      cases heard : p.server.stop.2 with
      | true => simpa [heard] using Step.stop interrupted heard
      | false => simpa [heard] using Step.failStop interrupted heard
    · exact .idle
  case join =>
    split
    · exact .join (.inl ‹_›) ‹_›
    · exact .join (.inr ‹_›) ‹_›
    · exact .idle
  case withdraw reachable =>
    split
    · next served =>
      split
      · next alone => exact .withhold served (Option.isNone_iff_eq_none.mp alone)
      · next connected =>
        have connected := Option.isSome_iff_ne_none.mpr (by simpa using connected)
        cases reachable with
        | true => exact .withdraw served connected
        | false => exact .failWithdrawal served connected
    · exact .idle
  case endWithdrawal =>
    split
    · split
      · exact .endWithdrawal ‹_› ‹_›
      · exact .idle
    · exact .idle
  case exit =>
    split
    · exact .exit ‹_›
    · next failure withdrawn => exact .fail withdrawn failure
    · exact .crash ‹_›
    · exact .idle

theorem advertise_step (p : Program) (going : p.isOver = false) (action : Action) :
    p.Step action (p.advertise action) := by
  cases action
  all_goals dsimp only [advertise]
  all_goals try exact .idle
  case look =>
    split
    · next possible => exact .look going possible.1 possible.2
    · exact .idle
  case announce reachable =>
    split
    · cases reachable with
      | true => exact .announce going ‹_›
      | false => exact .failAnnouncement going ‹_›
    · exact .idle
  case endAnnouncement =>
    split
    · next possible => exact .endAnnouncement going possible.1 possible.2
    · exact .idle

theorem handle_step (p : Program) (index : Nat) : p.Step (.handle index) (p.handle index) := by
  unfold handle
  split
  · exact .handle ‹_›
  · exact .idle

theorem advance_step (p : Program) (action : Action) : p.Step action (p.advance action) := by
  unfold advance
  split
  · exact p.handle_step _
  · split
    · exact .idle
    · exact .serve (Bool.eq_false_iff.mpr ‹_›)
  all_goals
    split
    · exact .idle
    · first
      | exact p.advertise_step (Bool.eq_false_iff.mpr ‹_›) _
      | exact p.proceed_step (Bool.eq_false_iff.mpr ‹_›) _

/-- What every step keeps is kept by a run. -/
theorem execute_invariant {P : Program → Prop}
    (kept : ∀ {p after action}, P p → p.Step action after → P after) {p : Program} (holds : P p)
    (schedule : List Action) : P (p.execute schedule) := by
  induction schedule generalizing p with
  | nil => exact holds
  | cons action schedule ih => exact ih (kept holds (p.advance_step action))

end AggregateStage.Program
