import AggregateStage.WorkItem.Reader

/-! Scored work items, and the shape of a result that they share with keyed totals. -/
namespace AggregateStage

/-- One line of output. A work item has its id as the key, a count of zero, its score
rounded as the sum and the score itself as the average. -/
structure Result where
  key : String
  count : Int64
  sum : Int64
  average : Float
  deriving DecidableEq, Repr

structure ScoredItem where
  id : String
  score : Float
  deriving DecidableEq, Repr

def Payload.scored (payload : Payload) : ScoredItem := ⟨payload.id, payload.finalScore⟩

def ScoredItem.decode (text : String) : Except PayloadError ScoredItem :=
  (Payload.decode text).map Payload.scored

def ScoredItem.result (item : ScoredItem) : Result where
  key := item.id
  count := 0
  sum := Binary64.toInt64 item.score
  average := item.score

end AggregateStage
