import AggregateStage.Call.Ingestion
import AggregateStage.Metrics.Record
import AggregateStage.Status

/-! One call as a machine: it receives requests until the stream ends, then hands over the
flush of its accumulator through a bounded queue to a client that may leave at any time.
Nothing is handed over after a failure. -/
namespace AggregateStage

namespace Call

inductive Outcome where
  | completed
  | receiveFailed (status : Status)
  | disconnected
  /-- A sum of clock readings did not fit; the call's task ends at once. -/
  | overflowed
  deriving DecidableEq, Repr

def Outcome.message : Outcome → String
  | .completed => ""
  | .receiveFailed status => "Receive failed: " ++ status.describe
  | .disconnected => "Client disconnected before all results were sent"
  | .overflowed => Metrics.Fault.message .overflow

inductive Phase (σ : Type) where
  | receiving
  | flushing (remaining : List σ)
  /-- The ingestion has returned; the end of the call is not yet reported. -/
  | returned (outcome : Outcome)
  | closed (outcome : Outcome)
  deriving DecidableEq, Repr

end Call

/-- A call in progress. -/
structure Call (ρ σ : Type) where
  phase : Call.Phase σ
  /-- What the transport is still to hand over, in order; after it the stream ends. -/
  arrivals : List (Except Status ρ)
  accumulator : Accumulator
  record : Metrics.Record
  /-- Sent and not yet taken by the client. -/
  queue : List (Except Status σ)
  /-- Taken by the client. -/
  taken : List (Except Status σ)
  /-- Whether the client still listens. -/
  attended : Bool
  log : List Log.Line

namespace Call

variable {ρ σ : Type}

def start (service : String) (arrivals : List (Except Status ρ)) : Call ρ σ where
  phase := .receiving
  arrivals := arrivals
  accumulator := .empty
  record := .start service
  queue := []
  taken := []
  attended := true
  log := []

/-- One step of the call or of its client. The call's steps carry the clock readings that
they would record. -/
inductive Action where
  | receive (waited processed : Duration)
  | send (elapsed : Duration)
  /-- The call reports how it ended. -/
  | close
  /-- The client takes the first message of the queue. -/
  | take
  /-- The client leaves; messages it has not taken are lost. -/
  | leave
  deriving DecidableEq, Repr

/-- Goes on with the record that an operation gives, or ends the call. -/
def recording (call : Call ρ σ) (record : Except Metrics.Fault Metrics.Record)
    (next : Metrics.Record → Call ρ σ) : Call ρ σ :=
  match record with
  | .ok record => next record
  | .error _ => { call with phase := .returned .overflowed }

/-- A call with nothing left to send logs its metrics and returns. -/
def settle (call : Call ρ σ) : Call ρ σ :=
  match call.phase with
  | .flushing [] =>
    match call.record.closingLines with
    | .ok lines => { call with phase := .returned .completed, log := call.log ++ lines }
    | .error _ => { call with phase := .returned .overflowed }
  | _ => call

/-- Takes a request into the accumulator. -/
def process (how : Ingestion ρ σ) (call : Call ρ σ) (request : ρ) (processed : Duration) :
    Call ρ σ :=
  match how.weight request with
  | none => call
  | some weight =>
    let events := how.observed request
    let call := { call with
      accumulator := events.foldl Accumulator.observe call.accumulator
      log := call.log ++ Event.dropLines events }
    call.recording (call.record.addProcessing processed (UInt64.ofNat weight)) fun record =>
      { call with record := record }

def receive (how : Ingestion ρ σ) (call : Call ρ σ) (waited processed : Duration) : Call ρ σ :=
  match call.phase, call.arrivals with
  | .receiving, [] =>
    settle { call with phase := .flushing (how.responses (call.accumulator.flushIn how.order)) }
  | .receiving, .error status :: rest =>
    { call with phase := .returned (.receiveFailed status), arrivals := rest }
  | .receiving, .ok request :: rest =>
    let call := { call with arrivals := rest }
    call.recording (call.record.addRecv waited) fun record =>
      process how { call with record := record } request processed
  | _, _ => call

/-- Whether a message can be queued. -/
def hasRoom (capacity : Nat) (call : Call ρ σ) : Bool := decide (call.queue.length < capacity)

def send (capacity : Nat) (call : Call ρ σ) (elapsed : Duration) : Call ρ σ :=
  match call.phase with
  | .flushing (response :: remaining) =>
    if !call.attended then { call with phase := .returned .disconnected }
    else if call.hasRoom capacity then
      let call := { call with
        phase := .flushing remaining
        queue := call.queue ++ [Except.ok response] }
      call.recording (call.record.addSend elapsed) fun record =>
        settle { call with record := record }
    else call
  | _ => call

/-- What is logged of the end of a call. -/
def Outcome.lines : Outcome → List Log.Line
  | .completed => [⟨.debug, .call, "Call completed", []⟩]
  | .receiveFailed status => [⟨.warn, .call, "Call aborted on receive",
      [⟨"code", .text status.code.name⟩, ⟨"message", .text status.message⟩]⟩]
  | .disconnected => [⟨.debug, .call, "Client disconnected during flush", []⟩]
  | .overflowed => []

/-- Reports the end; a failure to receive is passed on to a client that still listens. -/
def close (capacity : Nat) (call : Call ρ σ) : Call ρ σ :=
  match call.phase with
  | .returned outcome =>
    let call := { call with phase := .closed outcome, log := call.log ++ outcome.lines }
    match outcome with
    | .receiveFailed status =>
      if call.attended && call.hasRoom capacity then
        { call with queue := call.queue ++ [Except.error status] }
      else call
    | _ => call
  | _ => call

def take (call : Call ρ σ) : Call ρ σ :=
  match call.queue with
  | [] => call
  | message :: queue => { call with queue := queue, taken := call.taken ++ [message] }

def leave (call : Call ρ σ) : Call ρ σ := { call with attended := false, queue := [] }

/-- One step under a queue capacity; a step that is not possible changes nothing. -/
def advance (how : Ingestion ρ σ) (capacity : Nat) (call : Call ρ σ) : Action → Call ρ σ
  | .receive waited processed => call.receive how waited processed
  | .send elapsed => call.send capacity elapsed
  | .close => call.close capacity
  | .take => call.take
  | .leave => call.leave

def execute (how : Ingestion ρ σ) (capacity : Nat) (schedule : List Action) (call : Call ρ σ) :
    Call ρ σ :=
  schedule.foldl (advance how capacity) call

def outcome? (call : Call ρ σ) : Option Outcome :=
  match call.phase with
  | .returned outcome | .closed outcome => some outcome
  | _ => none

/-- How many responses are left to send. -/
def unsent (call : Call ρ σ) : Nat :=
  match call.phase with
  | .flushing remaining => remaining.length
  | _ => 0

/-- Every message that reached the client's side, taken or still queued. -/
def delivered (call : Call ρ σ) : List (Except Status σ) := call.taken ++ call.queue

def responses (call : Call ρ σ) : List σ := call.delivered.filterMap Except.toOption

end Call

/-- Room for messages that a configured buffer gives: at least one. -/
def Call.capacity (buffer : Nat) : Nat := max buffer 1

end AggregateStage
