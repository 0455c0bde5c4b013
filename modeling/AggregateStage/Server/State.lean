import AggregateStage.Log
import AggregateStage.Net.Address
import AggregateStage.Watch

/-! The life of a server. Starts of it go on side by side, step by step, while others ask
it to stop or wait for it to listen. A start that serves watches for requests to stop as a
copy of the server's own receiver, which has seen none of them. -/
namespace AggregateStage

namespace Server

/-- Where a server is to listen and what it serves. -/
structure Options where
  endpoint : Net.Endpoint
  /-- Whether the service describes itself to clients. -/
  reflection : Bool
  deriving DecidableEq, Repr

def Options.default : Options := ⟨⟨.v4 127 0 0 1, 6004⟩, true⟩

def Options.describe (o : Options) : String :=
  "GrpcServerConfig \x7b addr: " ++ o.endpoint.toText ++ ", reflection: " ++
    (if o.reflection then "true" else "false") ++ " \x7d"

/-- What a start returns with. -/
inductive Outcome where
  | stopped
  /-- The service's own description is no good. -/
  | undescribed (reason : String)
  /-- There is no listener, or it does not say where it is. -/
  | unbound (reason : String)
  | broken (reason : String)
  deriving DecidableEq, Repr

/-- What a start is about to do, or what it came to. -/
inductive Phase where
  | describing
  | binding
  /-- It has a listener and is about to say that it runs. -/
  | bound (listener : Net.Endpoint)
  /-- It is about to publish its listener. -/
  | flagged (listener : Net.Endpoint)
  /-- It is about to look out for requests to stop. -/
  | published (listener : Net.Endpoint)
  /-- It serves, and watches for requests to stop. -/
  | serving (listener : Net.Endpoint) (copy : Watch.Receiver)
  /-- It no longer serves and is about to say that it does not run. -/
  | closing (outcome : Outcome)
  /-- It is about to withdraw its listener. -/
  | lowered (outcome : Outcome)
  /-- It is about to report how it ended. -/
  | withdrawn (outcome : Outcome)
  | returned (outcome : Outcome)
  /-- It was dropped in a phase before it could return, as when it panics there. -/
  | dropped (phase : Phase) (reason : String)
  deriving DecidableEq, Repr

def Phase.outcome? : Phase → Option Outcome
  | .returned outcome => some outcome
  | _ => none

/-- Whether a start does nothing more. -/
def Phase.isOver : Phase → Bool
  | .returned _ | .dropped _ _ => true
  | _ => false

/-- The listener that a start holds. -/
def Phase.listener? : Phase → Option Net.Endpoint
  | .bound listener | .flagged listener | .published listener | .serving listener _ => some listener
  | _ => none

/-- The receiver by which a start watches for requests to stop. -/
def Phase.receiver? : Phase → Option Watch.Receiver
  | .serving _ copy => some copy
  | _ => none

end Server

structure Server where
  options : Server.Options
  /-- Every start there has been, the first one first. -/
  starts : List Server.Phase
  /-- Whether the server was asked to stop. -/
  shutdown : Watch Bool
  /-- The server's own receiver of requests to stop. -/
  receiver : Watch.Receiver
  /-- What the server says of itself. -/
  running : Bool
  /-- The listener that those who wait for one are told. -/
  published : Option Net.Endpoint
  /-- Every listener that was bound and said where it is. -/
  listeners : List Net.Endpoint
  /-- Those who wait for a listener, with the one that they were told. -/
  waiters : List (Option Net.Endpoint)
  log : List Log.Line
  deriving DecidableEq, Repr

namespace Server

def create (options : Options) : Server where
  options := options
  starts := []
  shutdown := (Watch.channel false).1
  receiver := (Watch.channel false).2
  running := false
  published := none
  listeners := []
  waiters := []
  log := []

/-- One step of a start. -/
inductive Step where
  /-- The description of the service is made, or there is something wrong with it. -/
  | describe (fault : Option String)
  | bind (listener : Net.Endpoint)
  /-- No listener is had, or its own address is not. -/
  | refuse (reason : String)
  /-- Whatever needs nothing from outside. -/
  | advance
  /-- Serving fails. -/
  | fail (reason : String)
  /-- The start is dropped with all that it holds, and nothing that it did is taken back. -/
  | drop (reason : String)
  deriving DecidableEq, Repr

inductive Action where
  | start
  | step (start : Nat) (step : Step)
  | stop
  /-- Somebody begins to wait for a listener. -/
  | listen
  /-- One who waits looks whether there is a listener. -/
  | look (waiter : Nat)
  deriving DecidableEq, Repr

def Outcome.lines : Outcome → List Log.Line
  | .stopped => [⟨.info, .server, "gRPC server stopped", []⟩]
  | .broken reason => [⟨.warn, .server, "gRPC server error", [⟨"error", .text reason⟩]⟩]
  | .undescribed _ | .unbound _ => []

def Outcome.message : Outcome → String
  | .stopped => ""
  | .undescribed reason | .unbound reason | .broken reason => reason

/-- What a start does by itself. It serves until there is a request to stop that its receiver
has not seen; the receiver goes with the end of serving. -/
def advance (s : Server) (start : Nat) : Phase → Server
  | .bound listener => { s with
      starts := s.starts.set start (.flagged listener)
      running := true
      log := s.log ++
        [⟨.info, .server, "Starting gRPC server", [⟨"addr", .text listener.toText⟩]⟩] }
  | .flagged listener => { s with
      starts := s.starts.set start (.published listener)
      published := some listener }
  | .published listener => { s with
      starts := s.starts.set start (.serving listener s.receiver)
      shutdown := s.shutdown.attach }
  | .serving _ copy =>
    if s.shutdown.hasNews copy then { s with
      starts := s.starts.set start (.closing .stopped)
      shutdown := s.shutdown.detach }
    else s
  | .closing outcome => { s with
      starts := s.starts.set start (.lowered outcome)
      running := false }
  | .lowered outcome => { s with
      starts := s.starts.set start (.withdrawn outcome)
      published := none }
  | .withdrawn outcome => { s with
      starts := s.starts.set start (.returned outcome)
      log := s.log ++ outcome.lines }
  | .describing | .binding | .returned _ | .dropped _ _ => s

/-- One step of a start in its phase; one that is not possible changes nothing. -/
def step (s : Server) (start : Nat) (step : Step) : Server :=
  match s.starts[start]?, step with
  | some .describing, .describe fault =>
    let phase := match fault, s.options.reflection with
      | some reason, true => .returned (.undescribed reason)
      | _, _ => .binding
    { s with starts := s.starts.set start phase }
  | some .binding, .bind listener => { s with
      starts := s.starts.set start (.bound listener)
      listeners := s.listeners ++ [listener] }
  | some .binding, .refuse reason =>
    { s with starts := s.starts.set start (.returned (.unbound reason)) }
  | some (.serving _ _), .fail reason => { s with
      starts := s.starts.set start (.closing (.broken reason))
      shutdown := s.shutdown.detach }
  | some phase, .drop reason =>
    if phase.isOver then s
    else { s with
      starts := s.starts.set start (.dropped phase reason)
      shutdown := if phase.receiver?.isSome then s.shutdown.detach else s.shutdown }
  | some phase, .advance => s.advance start phase
  | _, _ => s

/-- Asks the server to stop. The second part is whether there was a receiver of that. -/
def stop (s : Server) : Server × Bool :=
  let s : Server := { s with log := s.log ++ [⟨.info, .server, "Stopping gRPC server", []⟩] }
  match s.shutdown.send? true with
  | some shutdown => ({ s with shutdown := shutdown }, true)
  | none => (s, false)

def act (s : Server) : Action → Server
  | .start => { s with starts := s.starts ++ [.describing] }
  | .step start step => s.step start step
  | .stop => s.stop.1
  | .listen => { s with waiters := s.waiters ++ [none] }
  | .look waiter =>
    match s.waiters[waiter]?, s.published with
    | some none, some listener => { s with waiters := s.waiters.set waiter (some listener) }
    | _, _ => s

def execute (schedule : List Action) (s : Server) : Server := schedule.foldl act s

/-- The endpoint that the server was configured with. -/
def address (s : Server) : Net.Endpoint := s.options.endpoint

def describe (s : Server) : String :=
  "GrpcServer \x7b config: " ++ s.options.describe ++ ", running: " ++
    (if s.running then "true" else "false") ++ " \x7d"

end Server

end AggregateStage
