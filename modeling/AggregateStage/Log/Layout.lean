import AggregateStage.Decimal.Notation
import AggregateStage.Json.Quoted
import AggregateStage.Log

/-! How log lines are laid out as text: for people, or as one JSON object each. -/
namespace AggregateStage.Log

def Level.name : Level → String
  | .error => "ERROR"
  | .warn => "WARN"
  | .info => "INFO"
  | .debug => "DEBUG"
  | .trace => "TRACE"

def Value.plain : Value → String
  | .text value => value
  | .integer value => Decimal.integer value
  | .real value => Decimal.Notation.payload.text value

def Value.json : Value → String
  | .text value => Json.quoted value
  | .integer value => Decimal.integer value
  | .real value =>
    if Binary64.isNaN value || Binary64.isInfinite value then "null"
    else Decimal.Notation.payload.text value

def Line.plain (l : Line) : String :=
  let fields := l.fields.map fun f => " " ++ f.name ++ "=" ++ f.value.plain
  l.level.name ++ " " ++ l.origin.target ++ ": " ++ l.message ++ String.join fields

def Line.json (l : Line) : String :=
  let fields := (⟨"message", .text l.message⟩ :: l.fields).map fun f =>
    Json.quoted f.name ++ ":" ++ f.value.json
  "\x7b\"level\":" ++ Json.quoted l.level.name ++ ",\"fields\":\x7b" ++ ",".intercalate fields ++
    "\x7d,\"target\":" ++ Json.quoted l.origin.target ++ "\x7d"

end AggregateStage.Log
