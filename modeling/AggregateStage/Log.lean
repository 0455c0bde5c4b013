/-! Log lines. Components say what happened in notices of their own; a line is how a
notice is written. -/
namespace AggregateStage

namespace Log

inductive Level where
  | error
  | warn
  | info
  | debug
  | trace
  deriving DecidableEq, Repr

/-- The value of a field. -/
inductive Value where
  | text (value : String)
  | integer (value : Int)
  | real (value : Float)
  deriving DecidableEq, Repr

structure Field where
  name : String
  value : Value
  deriving DecidableEq, Repr

/-- The part of the program that a line comes from, by which filters choose. -/
inductive Origin where
  | program
  | server
  | call
  | client
  | announcement
  | metrics
  | accumulator
  deriving DecidableEq, Repr

/-- The target that filters know an origin by. -/
def Origin.target : Origin → String
  | .program => "sluice"
  | .server => "sluice_rpc_server"
  | .call => "sluice_rpc_server::service"
  | .client => "sluice_broker::client"
  | .announcement => "sluice_broker::registration"
  | .metrics => "sluice_metrics::connection"
  | .accumulator => "sluice_aggregate::accumulator"

structure Line where
  level : Level
  origin : Origin
  message : String
  fields : List Field
  deriving DecidableEq, Repr

end Log

end AggregateStage
