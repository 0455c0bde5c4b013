import AggregateStage.Metrics.Summary

/-! The running record of a call. Recording a duration that does not fit leaves the
record as it was. -/
namespace AggregateStage.Metrics

structure Record where
  service : String
  events : UInt64
  processing : Duration
  send : Duration
  recv : Duration
  deriving DecidableEq, Repr

/-- The one fault of recording: a sum of durations beyond the range. -/
inductive Fault where
  | overflow
  deriving DecidableEq, Repr

def Fault.message : Fault → String
  | .overflow => "overflow when adding durations"

def sum (a b : Duration) : Except Fault Duration :=
  match a.add? b with
  | some d => .ok d
  | none => .error .overflow

namespace Record

def start (service : String) : Record := ⟨service, 0, .zero, .zero, .zero⟩

def addRecv (r : Record) (elapsed : Duration) : Except Fault Record := do
  return { r with recv := ← sum r.recv elapsed }

/-- Time spent on a number of events together. -/
def addProcessing (r : Record) (elapsed : Duration) (count : UInt64) : Except Fault Record := do
  return { r with processing := ← sum r.processing elapsed, events := r.events + count }

def addSend (r : Record) (elapsed : Duration) : Except Fault Record := do
  return { r with send := ← sum r.send elapsed }

/-- The closing summary; none when nothing was processed or no time was taken. The total is
formed first, so it can fail even then. -/
def summary (r : Record) : Except Fault (Option Summary) := do
  let total ← sum (← sum r.processing r.send) r.recv
  if r.events = 0 ∨ total.isZero then return none
  else return some ⟨r.service, r.events, total, r.processing, r.send, r.recv⟩

/-- The lines logged at the close. -/
def closingLines (r : Record) : Except Fault (List Log.Line) := do
  match ← r.summary with
  | none => return []
  | some summary => return summary.lines

end Record

/-- One recording operation. -/
inductive Recording where
  | recv (elapsed : Duration)
  | processing (elapsed : Duration) (count : UInt64)
  | send (elapsed : Duration)
  deriving DecidableEq, Repr

def Record.apply (r : Record) : Recording → Except Fault Record
  | .recv elapsed => r.addRecv elapsed
  | .processing elapsed count => r.addProcessing elapsed count
  | .send elapsed => r.addSend elapsed

/-- Carries out an operation in place. What was stored before a failure stays stored. -/
def Recording.carryOut (recording : Recording) : EStateM Fault Record Unit := do
  match recording with
  | .recv elapsed =>
    let total ← ofExcept (sum (← get).recv elapsed)
    modify fun r => { r with recv := total }
  | .processing elapsed count =>
    let total ← ofExcept (sum (← get).processing elapsed)
    modify fun r => { r with processing := total }
    modify fun r => { r with events := r.events + count }
  | .send elapsed =>
    let total ← ofExcept (sum (← get).send elapsed)
    modify fun r => { r with send := total }

/-- The record that an operation leaves, whether it goes through or fails. -/
def Record.after (r : Record) (recording : Recording) : Record :=
  match recording.carryOut r with
  | .ok _ next | .error _ next => next

end AggregateStage.Metrics
