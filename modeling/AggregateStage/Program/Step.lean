import AggregateStage.Program.State

/-! The steps of a run. The main line ends only behind the withdrawal, which it waits for;
the announcement goes on beside it until the program is over. -/
namespace AggregateStage.Program

/-- How a request of the program ends for it. -/
inductive Ending where
  /-- The broker has handled it and says how. -/
  | answered (reply : Broker.Reply)
  /-- No answer came in time, or the connection broke. -/
  | failed (fault : Broker.Fault)
  deriving DecidableEq, Repr

/-- One step of a run. -/
inductive Action where
  /-- The main line begins to wait for an interrupt or the end of serving. -/
  | wait
  | interrupt
  /-- The main line catches the interrupt. -/
  | heed
  /-- It asks the server to stop. -/
  | stop
  /-- It sees that serving has ended and turns to the broker, if there is one. -/
  | join
  /-- It asks the broker to withdraw the service, if it can be reached. -/
  | withdraw (reachable : Bool)
  | endWithdrawal (ending : Ending)
  | exit
  /-- A step of serving. -/
  | serve (step : Server.Step)
  /-- The announcement sees that the server listens and turns to the broker. -/
  | look
  /-- It asks the broker to register the service, if it can be reached. -/
  | announce (reachable : Bool)
  | endAnnouncement (ending : Ending)
  /-- The broker handles one of the requests it has been sent. -/
  | handle (index : Nat)
  deriving DecidableEq, Repr

/-- Once the main line has ended nothing else of the program goes on. -/
def isOver (p : Program) : Bool :=
  match p.phase with
  | .exited _ | .killed => true
  | _ => false

def addLines (p : Program) (lines : List Log.Line) : Program := { p with log := p.log ++ lines }

/-- The program with its server moved on, whose new lines are logged. -/
def withServer (p : Program) (server : Server) : Program :=
  { p with server := server, log := p.log ++ server.log.drop p.server.log.length }

/-- How serving ended, if it did. -/
def serving? (p : Program) : Option Conclusion :=
  p.server.starts.head?.bind Conclusion.ofPhase?

def send (p : Program) (request : Broker.Request) : Program :=
  { p with sent := p.sent ++ [request], inFlight := p.inFlight ++ [request] }

/-- What is logged before a request is made to the broker. -/
def requestLines (p : Program) (request : Broker.Request) : List Log.Line :=
  match p.client with
  | some client => [request.line client.url.toText]
  | none => []

/-- Whether a request can end in a way: an answer to it has to be given by then. -/
def canEnd (p : Program) (request : Broker.Request) : Ending → Bool
  | .answered _ => p.handled.contains request
  | .failed _ => true

def Ending.failure? : Ending → Option String
  | .answered reply => reply.fault?.map Broker.Fault.message
  | .failed fault => some fault.message

/-- One step of the main line. -/
def proceed (p : Program) : Action → Program
  | .wait =>
    match p.phase with
    | .launched => { p with phase := .waiting }
    | _ => p
  | .interrupt =>
    match p.phase with
    | .launched => { p with phase := .killed }
    | _ => { p with signalled := true }
  | .heed =>
    match p.phase with
    | .waiting =>
      if p.signalled then
        { p with phase := .interrupted, signalled := false }.addLines
          [⟨.info, .program, "Received shutdown signal", []⟩]
      else p
    | _ => p
  | .stop =>
    match p.phase with
    | .interrupted =>
      let (server, heard) := p.server.stop
      { p with phase := if heard then .stopping else .exited (some .unheard) }.withServer server
    | _ => p
  | .join =>
    match p.phase, p.serving? with
    | .waiting, some conclusion | .stopping, some conclusion =>
      { p with phase := .served conclusion }.addLines (p.requestLines p.withdrawal)
    | _, _ => p
  | .withdraw reachable =>
    match p.phase with
    | .served conclusion =>
      if p.client.isNone then { p with phase := .withdrawn conclusion }
      else if reachable then { p with phase := .withdrawing conclusion }.send p.withdrawal
      else
        { p with phase := .withdrawn conclusion }.addLines
          [p.withdrawal.outcomeLine (some (Broker.Fault.message .unreachable))]
    | _ => p
  | .endWithdrawal ending =>
    match p.phase with
    | .withdrawing conclusion =>
      if p.canEnd p.withdrawal ending then
        { p with phase := .withdrawn conclusion }.addLines
          [p.withdrawal.outcomeLine ending.failure?]
      else p
    | _ => p
  | .exit =>
    match p.phase with
    | .withdrawn (.returned .stopped) => { p with phase := .exited none }
    | .withdrawn (.returned outcome) =>
      { p with phase := .exited (some (.server outcome)) }.addLines
        [⟨.error, .program, "gRPC server failed", [⟨"error", .text outcome.message⟩]⟩]
    -- This one is reported and not logged.
    | .withdrawn (.crashed reason) => { p with phase := .exited (some (.task reason)) }
    | _ => p
  | _ => p

/-- One step of the announcement. -/
def advertise (p : Program) : Action → Program
  | .look =>
    if p.announcement = .waiting ∧ p.server.published.isSome then
      { p with announcement := .connecting }.addLines (p.requestLines p.registration)
    else p
  | .announce reachable =>
    if p.announcement = .connecting then
      if reachable then { p with announcement := .calling }.send p.registration
      else
        { p with announcement := .finished }.addLines
          [p.registration.outcomeLine (some (Broker.Fault.message .unreachable))]
    else p
  | .endAnnouncement ending =>
    if p.announcement = .calling ∧ p.canEnd p.registration ending then
      { p with announcement := .finished }.addLines [p.registration.outcomeLine ending.failure?]
    else p
  | _ => p

/-- The broker handles a request. -/
def handle (p : Program) (index : Nat) : Program :=
  match p.inFlight[index]? with
  | some request =>
    { p with inFlight := p.inFlight.eraseIdx index, handled := p.handled ++ [request] }
  | none => p

/-- One step; a step that is not possible changes nothing. The broker goes on when the
program is over. -/
def advance (p : Program) (action : Action) : Program :=
  match action with
  | .handle index => p.handle index
  | .serve step => if p.isOver then p else p.withServer (p.server.act (.step 0 step))
  | .look | .announce _ | .endAnnouncement _ => if p.isOver then p else p.advertise action
  | _ => if p.isOver then p else p.proceed action

def execute (schedule : List Action) (p : Program) : Program := schedule.foldl advance p

end AggregateStage.Program
