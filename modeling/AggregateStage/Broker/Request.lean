import AggregateStage.Decimal.Digits
import AggregateStage.Log
import AggregateStage.Text.Quoted

/-! What a service tells a broker of itself. -/
namespace AggregateStage.Broker

/-- What a service is known by. -/
structure Interface where
  name : String
  role : String
  deriving DecidableEq, Repr

/-- An interface and where it is served. -/
structure Registration where
  interface : Interface
  url : String
  port : UInt16
  deriving DecidableEq, Repr

inductive Request where
  | register (registration : Registration)
  | unregister (interface : Interface)
  deriving DecidableEq, Repr

/-- The interface that a request is about. -/
def Request.interface : Request → Interface
  | .register registration => registration.interface
  | .unregister interface => interface

def Request.isRegister : Request → Bool
  | .register _ => true
  | .unregister _ => false

def Interface.parts (i : Interface) : String :=
  "interface_name: " ++ Text.quoted i.name ++ ", role: " ++ Text.quoted i.role

def Request.describe : Request → String
  | .register r =>
    "RegisterServiceRequest \x7b info: Some(ServiceInfo \x7b " ++ r.interface.parts ++
      " \x7d), url: " ++ Text.quoted r.url ++ ", port: " ++ Decimal.integer r.port.toNat ++ " \x7d"
  | .unregister i => "UnregisterServiceRequest \x7b " ++ i.parts ++ " \x7d"

/-- What is logged before a request is made to the broker at an address. -/
def Request.line (broker : String) (request : Request) : Log.Line :=
  let message := if request.isRegister then "Registering service" else "Unregistering service"
  ⟨.debug, .client, message, [⟨"broker", .text broker⟩, ⟨"request", .text request.describe⟩]⟩

/-- What is logged of a request that was answered, or failed for a reason. -/
def Request.outcomeLine (request : Request) (failure : Option String) : Log.Line :=
  let interface : Log.Field := ⟨"interface", .text request.interface.name⟩
  match request, failure with
  | .register r, none => ⟨.info, .announcement, "Registered with broker",
      [interface, ⟨"url", .text r.url⟩, ⟨"port", .integer r.port.toNat⟩]⟩
  | .register _, some reason => ⟨.warn, .announcement, "Failed to register with broker",
      [interface, ⟨"error", .text reason⟩]⟩
  | .unregister _, none => ⟨.info, .announcement, "Unregistered from broker", [interface]⟩
  | .unregister _, some reason => ⟨.warn, .announcement, "Failed to unregister from broker",
      [interface, ⟨"error", .text reason⟩]⟩

/-- A request made once what it waits for is there. -/
structure Exchange where
  /-- What was asked of the broker. -/
  requests : List Request
  /-- Whether it was granted; nothing when the wait has no end. -/
  granted : Option Bool
  log : List Log.Line
  deriving DecidableEq, Repr

/-- Makes a request that ends with an outcome. A failure is logged and has no other effect. -/
def Exchange.make (request : Request) (ready : Bool) (failure : Option String) : Exchange :=
  if ready then ⟨[request], some failure.isNone, [request.outcomeLine failure]⟩
  else ⟨[], none, []⟩

end AggregateStage.Broker
