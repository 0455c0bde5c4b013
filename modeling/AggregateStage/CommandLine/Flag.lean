/-! The flags of the program, the forms that words have, and why the program may stop at
its command line. -/
namespace AggregateStage.CommandLine

/-- Why a program does not go on with its arguments. -/
inductive Stop where
  | help
  | version
  | unknownArgument
  | missingValue
  | badValue
  | repeated
  /-- A value for a flag that takes none. -/
  | unexpectedValue
  deriving DecidableEq, Repr

/-- The exit code of the program: nothing is wrong when it was asked to present itself. -/
def Stop.exitCode : Stop → UInt32
  | .help | .version => 0
  | _ => 2

def Stop.message : Stop → String
  | .help | .version => ""
  | .unknownArgument => "unexpected argument found"
  | .missingValue => "a value is required but none was supplied"
  | .badValue => "invalid value"
  | .repeated => "an argument cannot be used multiple times"
  | .unexpectedValue => "unexpected value for an argument that takes none"

inductive Flag where
  | config
  | quiet
  | verbosity
  | directives
  | json
  | host
  | port
  | noReflection
  | broker
  | role
  | timeout
  | noBroker
  | help
  | version
  deriving DecidableEq, Repr

namespace Flag

def names : List (Flag × String) := [
  (.config, "config"), (.quiet, "quiet"), (.verbosity, "verbosity"), (.directives, "log.filter"),
  (.json, "log.json"), (.host, "host"), (.port, "port"), (.noReflection, "no-reflection"),
  (.broker, "broker"), (.role, "broker.role"), (.timeout, "broker.timeout"),
  (.noBroker, "no-broker"), (.help, "help"), (.version, "version")]

def ofName? (name : List Char) : Option Flag :=
  (names.find? fun pair => pair.2.toList == name).map Prod.fst

def ofLetter? : Char → Option Flag
  | 'q' => some .quiet
  | 'v' => some .verbosity
  | 'h' => some .help
  | 'V' => some .version
  | _ => none

def takesValue : Flag → Bool
  | .config | .directives | .host | .port | .broker | .role | .timeout => true
  | _ => false

end Flag

/-- A word by its form. -/
inductive Word where
  /-- Two hyphens by themselves: no flags follow. -/
  | escape
  | long (name : List Char) (value : Option (List Char))
  | letters (letters : List Char)
  | plain (text : String)
  deriving DecidableEq, Repr

/-- A single hyphen is no flag. -/
def Word.ofText (text : String) : Word :=
  match text.toList with
  | ['-', '-'] => .escape
  | '-' :: '-' :: body =>
    let (name, value) := body.span (· != '=')
    .long name (match value with
      | _ :: value => some value
      | [] => none)
  | '-' :: letter :: more => .letters (letter :: more)
  | _ => .plain text

end AggregateStage.CommandLine
