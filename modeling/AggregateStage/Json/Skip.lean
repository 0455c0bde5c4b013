import AggregateStage.Json.Lexeme

/-! Passing over a value that nobody asks for. Only the grammar is checked, to any depth. -/
namespace AggregateStage.Json

/-- What is due at a place inside a value that is passed over. -/
inductive Expectation where
  | value
  /-- The first element or the end of an array. -/
  | elements
  /-- A comma or the end of an array. -/
  | moreElements
  /-- The first member or the end of an object. -/
  | members
  /-- A comma or the end of an object. -/
  | moreMembers
  deriving DecidableEq, Repr

def skipNumeral (cs : List Char) : Except Fault (List Char) :=
  match scanNumeral cs with
  | .ok (_, rest) => .ok rest
  | .error rest => .error (.within rest .invalidNumber)

/-- Passes over the name of a member and its colon. -/
def skipName (cs : List Char) : Except Fault (List Char) :=
  match skipBlanks cs with
  | [] => .error (.at [] .endOfObject)
  | '"' :: rest => do
    match skipBlanks (← skipString rest) with
    | [] => .error (.at [] .endOfObject)
    | ':' :: rest => .ok rest
    | rest => .error (.within rest .expectedColon)
  | rest => .error (.within rest .nameNotString)

/-- Passes over what is due; the bound is on the number of parts passed over. -/
def skip : Nat → Expectation → List Char → Except Fault (List Char)
  | 0, _, cs => .error (.at cs .expectedValue)
  | bound + 1, .value, cs =>
    match skipBlanks cs with
    | [] => .error (.at [] .endOfValue)
    | 'n' :: rest => readWord ['u', 'l', 'l'] rest
    | 't' :: rest => readWord ['r', 'u', 'e'] rest
    | 'f' :: rest => readWord ['a', 'l', 's', 'e'] rest
    | '"' :: rest => skipString rest
    | '[' :: rest => skip bound .elements rest
    | '\x7b' :: rest => skip bound .members rest
    | c :: rest =>
      if c = '-' ∨ Decimal.isDigit c then skipNumeral (c :: rest)
      else .error (.within (c :: rest) .expectedValue)
  | bound + 1, .elements, cs =>
    match skipBlanks cs with
    | [] => .error (.at [] .endOfList)
    | ']' :: rest => .ok rest
    | rest => do skip bound .moreElements (← skip bound .value rest)
  | bound + 1, .moreElements, cs =>
    match skipBlanks cs with
    | [] => .error (.at [] .endOfList)
    | ']' :: rest => .ok rest
    | ',' :: rest => do skip bound .moreElements (← skip bound .value rest)
    | rest => .error (.within rest .expectedCommaOrBracket)
  | bound + 1, .members, cs =>
    match skipBlanks cs with
    | [] => .error (.at [] .endOfObject)
    | '\x7d' :: rest => .ok rest
    | rest => do skip bound .moreMembers (← skip bound .value (← skipName rest))
  | bound + 1, .moreMembers, cs =>
    match skipBlanks cs with
    | [] => .error (.at [] .endOfObject)
    | '\x7d' :: rest => .ok rest
    | ',' :: rest => do skip bound .moreMembers (← skip bound .value (← skipName rest))
    | rest => .error (.within rest .expectedCommaOrBrace)

/-- Every part takes at least one character but the list of what follows it. -/
def skipValue (cs : List Char) : Except Fault (List Char) :=
  skip (2 * cs.length + 2) .value cs

end AggregateStage.Json
