import AggregateStage.Broker.Client
import AggregateStage.Server.State
import AggregateStage.Service
import AggregateStage.Settings

/-! A run of the program as a machine. Beside its main line there are the serving of the
service, the announcement of it to the broker, which nobody waits for, and the broker,
which handles the requests it has been sent one at a time and in any order. -/
namespace AggregateStage

namespace Program

/-- The name that the program presents itself by. -/
def name : String := "sluice"

def version : String := "0.1.0"

/-- How the task that serves ends. -/
inductive Conclusion where
  | returned (outcome : Server.Outcome)
  /-- It came down before the start in it could return. -/
  | crashed (reason : String)
  deriving DecidableEq, Repr

/-- How a task has ended, by the phase of the start in it. -/
def Conclusion.ofPhase? : Server.Phase → Option Conclusion
  | .returned outcome => some (.returned outcome)
  | .dropped _ reason => some (.crashed reason)
  | _ => none

/-- Why the program ends with an error. -/
inductive Failure where
  | settings (fault : Settings.Fault)
  | host (fault : Settings.BadHost)
  /-- Nobody received the request to stop. -/
  | unheard
  | server (outcome : Server.Outcome)
  /-- The task that serves came down. -/
  | task (reason : String)
  deriving Repr, BEq

def Failure.message : Failure → String
  | .settings _ => Settings.Fault.message
  | .host fault => fault.message
  | .unheard => "channel closed"
  | .server outcome => outcome.message
  | .task reason => "gRPC server task failed: " ++ reason

/-- Where the main line is. -/
inductive Phase where
  /-- Everything is begun, but an interrupt is not yet caught. -/
  | launched
  | waiting
  /-- An interrupt was caught; the server is to be told. -/
  | interrupted
  /-- The server was asked to stop. -/
  | stopping
  /-- Serving has ended; the service is to be withdrawn. -/
  | served (conclusion : Conclusion)
  /-- The broker was asked to withdraw the service. -/
  | withdrawing (conclusion : Conclusion)
  | withdrawn (conclusion : Conclusion)
  | exited (failure : Option Failure)
  | killed
  deriving Repr, BEq

/-- Where the announcement is. -/
inductive Announcement where
  /-- There is no broker to announce to. -/
  | none
  /-- It waits for the server to listen. -/
  | waiting
  | connecting
  /-- The broker was asked to register the service. -/
  | calling
  | finished
  deriving DecidableEq, Repr

end Program

/-- A run of the program from where its settings are checked. -/
structure Program where
  settings : Settings
  /-- The client of the broker, unless there is none to announce to. -/
  client : Option Broker.Client
  phase : Program.Phase
  announcement : Program.Announcement
  /-- Whether there was an interrupt that has not been heeded. -/
  signalled : Bool
  server : Server
  /-- The requests sent to the broker, in order. -/
  sent : List Broker.Request
  /-- Those of them that the broker has not handled. -/
  inFlight : List Broker.Request
  /-- Those that it has, in the order in which it did. -/
  handled : List Broker.Request
  log : List Log.Line
  deriving Repr

namespace Program

def interface (p : Program) : Broker.Interface := ⟨Service.name, p.settings.broker.role⟩

/-- The announcement of the configured endpoint. -/
def registration (p : Program) : Broker.Request :=
  .register ⟨p.interface, p.settings.server.host, p.settings.server.port⟩

def withdrawal (p : Program) : Broker.Request := .unregister p.interface

/-- The client of the broker, as the settings have it, with what is logged of it. -/
def connectBroker (s : Settings.Broker) : Option Broker.Client × List Log.Line :=
  if !s.enabled then (none, [⟨.info, .program, "Broker registration disabled", []⟩])
  else
    match Broker.Client.ofAddress s.address s.timeout with
    | .ok client => (some client, [])
    | .error fault => (none, [⟨.warn, .program,
        "Broker unavailable, continuing without registration",
        [⟨"address", .text s.address⟩, ⟨"error", .text fault.message⟩]⟩])

def greeting : Log.Line :=
  ⟨.info, .program, "Starting Sluice aggregate service", [⟨"version", .text version⟩]⟩

/-- Begins serving at an endpoint, and the announcement if there is a broker. -/
def launch (settings : Settings) (endpoint : Net.Endpoint) : Program :=
  let (client, lines) := connectBroker settings.broker
  { settings := settings
    client := client
    phase := .launched
    announcement := if client.isSome then .waiting else .none
    signalled := false
    server := (Server.create ⟨endpoint, settings.server.reflection⟩).act .start
    sent := []
    inFlight := []
    handled := []
    log := greeting :: lines }

end Program

end AggregateStage
