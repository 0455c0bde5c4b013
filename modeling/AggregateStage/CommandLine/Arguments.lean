/-! What the flags of a command line come to. -/
namespace AggregateStage

/-- What a command line gives. -/
structure Arguments where
  /-- The path of a configuration file. -/
  config : Option String
  quiet : Bool
  verbosity : Nat
  /-- Directives for the log filter. -/
  directives : Option String
  /-- Whether log lines are written as JSON. -/
  json : Bool
  host : Option String
  port : Option UInt16
  noReflection : Bool
  broker : Option String
  role : Option String
  timeout : Option UInt64
  noBroker : Bool
  deriving DecidableEq, Repr

def Arguments.none : Arguments where
  config := Option.none
  quiet := false
  verbosity := 0
  directives := Option.none
  json := false
  host := Option.none
  port := Option.none
  noReflection := false
  broker := Option.none
  role := Option.none
  timeout := Option.none
  noBroker := false

end AggregateStage
