import AggregateStage.Accumulator

/-! The messages of the pipeline, and what they mean to the stage. -/
namespace AggregateStage

/-- An event as the parse stage writes it. -/
structure ParsedEvent where
  type : String
  /-- A free field; it carries the payload of a work item. -/
  user : String
  value : Int64
  timestamp : Int64
  sequence : Int64
  deriving DecidableEq, Repr

def ParsedEvent.zero : ParsedEvent := ⟨"", "", 0, 0, 0⟩

/-- A parsed event as the rules stage annotates it. -/
structure EnrichedEvent where
  event : Option ParsedEvent
  metadata : List (String × String)
  passed : Bool
  deriving DecidableEq, Repr

def EnrichedEvent.zero : EnrichedEvent := ⟨none, [], false⟩

def ParsedEvent.counted (e : ParsedEvent) : Event := ⟨e.type, e.value, e.user⟩

/-- An annotation without an event counts as a rejected one. -/
def EnrichedEvent.judged (e : EnrichedEvent) : JudgedEvent :=
  match e.event with
  | some event => ⟨event.counted, e.passed⟩
  | none => ⟨ParsedEvent.zero.counted, false⟩

/-- What a request of one event brings; it may bring none. -/
abbrev SingleRequest := Option EnrichedEvent

/-- What a request of many events brings. -/
abbrev BatchRequest := List EnrichedEvent

/-- What a response of many results holds. -/
abbrev BatchResponse := List Result

end AggregateStage
