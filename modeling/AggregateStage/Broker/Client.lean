import AggregateStage.Broker.Request
import AggregateStage.Net.Url
import AggregateStage.Wire.Percent

/-! The client of a broker. Each request has a connection of its own. -/
namespace AggregateStage.Broker

inductive Fault where
  /-- The address, with its scheme, is none. -/
  | invalidAddress (address : String)
  | unreachable
  | rejected (status : Status)
  deriving DecidableEq, Repr

def Fault.message : Fault → String
  | .invalidAddress address => "Invalid broker address " ++ address ++ ": invalid URI"
  | .unreachable => "Broker connection failed: transport error"
  | .rejected status => "Broker rejected request: " ++ status.describe

structure Client where
  url : Net.Url
  /-- Seconds for connecting and for each call. -/
  timeout : UInt64
  deriving DecidableEq, Repr

def Client.ofAddress (address : String) (timeout : UInt64) : Except Fault Client :=
  let address := Net.Url.normalize address
  match Net.Url.parse? address with
  | some url => .ok ⟨url, timeout⟩
  | none => .error (.invalidAddress address)

/-- What a broker does with a request that it got. -/
inductive Reply where
  | accept
  | refuse (status : Status)
  /-- There is no answer within the time allowed. -/
  | silence
  deriving DecidableEq, Repr

/-- Why a request failed, as its sender sees it. A refusal that says that nothing is wrong
lacks an answer. -/
def Reply.fault? : Reply → Option Fault
  | .accept => none
  | .refuse status =>
    if status.code = .ok then some (.rejected ⟨.internal, "Missing response message."⟩)
    else some (.rejected (Wire.received status))
  | .silence => some (.rejected ⟨.cancelled, "Timeout expired"⟩)

/-- The requests that a broker sees of one, and why it failed; a broker that cannot be
reached sees none. -/
def Client.send (reachable : Bool) (request : Request) (reply : Reply) :
    List Request × Option Fault :=
  if reachable then ([request], reply.fault?) else ([], some .unreachable)

end AggregateStage.Broker
