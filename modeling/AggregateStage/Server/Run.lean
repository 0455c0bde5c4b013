import AggregateStage.Net.Host
import AggregateStage.Server.State

/-! Servers run as far as they get without being asked to stop. -/
namespace AggregateStage.Server

/-- The listeners that are held by starts. -/
def held (s : Server) : List Net.Endpoint := s.starts.filterMap Phase.listener?

/-- How a start finds the endpoint that it asks its machine for. -/
def binding (host : Net.Host) (s : Server) : Step :=
  match host.bind s.held s.options.endpoint with
  | .ok listener => .bind listener
  | .error reason => .refuse reason

/-- The steps of a start, those behind the binding often enough to get to its end. -/
def drive (host : Net.Host) (s : Server) (start : Nat) : Server :=
  execute (List.replicate 7 (.step start .advance))
    (execute [.step start (.describe none), .step start (s.binding host)] s)

/-- Runs every start, the first one first. -/
def settle (host : Net.Host) (s : Server) : Server :=
  (List.range s.starts.length).foldl (drive host) s

/-- Somebody waits for a listener while the starts run. -/
def awaitListener (host : Net.Host) (s : Server) : Server × Option Net.Endpoint :=
  let waiter := s.waiters.length
  let s := (settle host (execute [.listen, .look waiter] s)).act (.look waiter)
  (s, s.waiters[waiter]?.join)

end AggregateStage.Server
