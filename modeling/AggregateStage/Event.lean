import AggregateStage.Log
import AggregateStage.WorkItem.Scored

/-! Events as the stage counts them, and what it makes of one. -/
namespace AggregateStage

structure Event where
  /-- The classification key. -/
  type : String
  /-- What the event adds to the sum of its key. -/
  value : Int64
  /-- The text of a work item; ignored for other events. -/
  payload : String
  deriving DecidableEq, Repr

/-- The type whose events are scored one by one and never summed. -/
def workItemType : String := "work-item"

def Event.keyed (type : String) (value : Int64) : Event := ⟨type, value, ""⟩

def Event.workItem (payload : String) : Event := ⟨workItemType, 0, payload⟩

def Event.isWorkItem (event : Event) : Bool := event.type == workItemType

/-- An event with the verdict of the rules on it. -/
structure JudgedEvent where
  event : Event
  passed : Bool
  deriving DecidableEq, Repr

/-- What an event amounts to. -/
inductive Observation where
  | keyed (key : String) (value : Int64)
  | scored (item : ScoredItem)
  | dropped (error : PayloadError)
  deriving DecidableEq, Repr

def Event.observation (event : Event) : Observation :=
  if event.isWorkItem then
    match ScoredItem.decode event.payload with
    | .ok item => .scored item
    | .error error => .dropped error
  else .keyed event.type event.value

/-- What is logged of an observation: only that a work item is dropped, and why. -/
def Observation.lines : Observation → List Log.Line
  | .dropped error =>
    [⟨.debug, .accumulator, "Dropping work-item", [⟨"error", .text error.message⟩]⟩]
  | _ => []

def Event.dropLines (events : List Event) : List Log.Line :=
  events.flatMap fun event => event.observation.lines

end AggregateStage
