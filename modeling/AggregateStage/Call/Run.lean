import AggregateStage.Call.State

/-! Calls run to their end with a client that takes every message as soon as it is sent. -/
namespace AggregateStage.Call

variable {ρ σ : Type}

/-- What happens outside a call while it receives. -/
inductive Incident (ρ : Type) where
  | arrival (item : Except Status ρ)
  | leave

def Incident.item? : Incident ρ → Option (Except Status ρ)
  | .arrival item => some item
  | .leave => none

def Incident.action (reading : Duration) : Incident ρ → Action
  | .arrival _ => .receive reading reading
  | .leave => .leave

/-- Sends and takes the responses that are left, one after the other. -/
def handOver (how : Ingestion ρ σ) (capacity : Nat) (reading : Duration) (call : Call ρ σ) :
    Call ρ σ :=
  call.execute how capacity (List.replicate call.unsent [.send reading, .take]).flatten

/-- Receives everything, looks for more and finds the end, then hands over the results.
Every clock reading is the same. -/
def run (how : Ingestion ρ σ) (capacity : Nat) (reading : Duration) (service : String)
    (incidents : List (Incident ρ)) : Call ρ σ :=
  let call := (start service (incidents.filterMap Incident.item?)).execute how capacity
    (incidents.map (Incident.action reading) ++ [.receive reading reading])
  call.handOver how capacity reading

end AggregateStage.Call
