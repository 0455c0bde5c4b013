import AggregateStage.Json.Number
import AggregateStage.Json.Skip
import AggregateStage.WorkItem.Payload

/-! Payloads read from their JSON text: null, an object with the fields by name, or an
array with the fields in order. A field that is null or left out has its zero value, and
members with other names are passed over. -/
namespace AggregateStage

open Json

namespace Payload

/-- The fault of a value that is not of the kind that is due. -/
def wrongType (due : String) (cs : List Char) : Fault :=
  let found : Except Fault (Found × List Char) :=
    match cs with
    | [] => .error (.at [] .endOfValue)
    | 'n' :: rest => (readWord ['u', 'l', 'l'] rest).map (.null, ·)
    | 't' :: rest => (readWord ['r', 'u', 'e'] rest).map (.boolean true, ·)
    | 'f' :: rest => (readWord ['a', 'l', 's', 'e'] rest).map (.boolean false, ·)
    | '"' :: rest => (readString rest).map fun (s, rest) => (.text (String.ofList s), rest)
    | '[' :: _ => .ok (.array, cs)
    | '\x7b' :: _ => .ok (.object, cs)
    | c :: _ =>
      if c = '-' ∨ Decimal.isDigit c then (readNumeral cs).map fun (n, rest) => (n.found, rest)
      else .error (.within cs .expectedValue)
  match found with
  | .ok (found, rest) => .at rest (.wrongType found due)
  | .error fault => fault

/-- Reads null as a given value, and anything else as a reader does. -/
def readOrNull {α : Type} (zero : α) (read : List Char → Except Fault (α × List Char))
    (cs : List Char) : Except Fault (α × List Char) :=
  match skipBlanks cs with
  | 'n' :: rest => (readWord ['u', 'l', 'l'] rest).map (zero, ·)
  | rest => read rest

def readText (cs : List Char) : Except Fault (String × List Char) :=
  match skipBlanks cs with
  | '"' :: rest => (readString rest).map fun (s, rest) => (String.ofList s, rest)
  | rest => .error (wrongType "a string" rest)

def readNumber (cs : List Char) : Except Fault (Float × List Char) :=
  match skipBlanks cs with
  | [] => .error (.at [] .endOfValue)
  | c :: rest =>
    if c = '-' ∨ Decimal.isDigit c then
      (readNumeral (c :: rest)).map fun (n, rest) => (n.toFloat, rest)
    else .error (wrongType "f64" (c :: rest))

/-- The place of the next element of an array, or `none` before its closing bracket. -/
def nextElement (first : Bool) (cs : List Char) : Except Fault (Option (List Char)) :=
  match skipBlanks cs with
  | [] => .error (.at [] .endOfList)
  | ']' :: _ => .ok none
  | c :: rest =>
    if first then .ok (some (c :: rest))
    else if c = ',' then
      match skipBlanks rest with
      | [] => .error (.at [] .endOfValue)
      | ']' :: rest => .error (.within (']' :: rest) .trailingComma)
      | rest => .ok (some rest)
    else .error (.within (c :: rest) .expectedCommaOrBracket)

/-- Reads the closing bracket of an array that has all its elements. -/
def closeArray (cs : List Char) : Except Fault (List Char) :=
  match skipBlanks cs with
  | [] => .error (.at [] .endOfList)
  | ']' :: rest => .ok rest
  | ',' :: rest =>
    match skipBlanks rest with
    | ']' :: rest => .error (.within (']' :: rest) .trailingComma)
    | rest => .error (.within rest .trailingCharacters)
  | rest => .error (.within rest .trailingCharacters)

/-- Reads the numbers of an array from behind its opening bracket or an element; the bound
is on their count. -/
def readElements : Nat → Bool → List Char → Except Fault (List Float × List Char)
  | 0, _, cs => .error (.at cs .endOfList)
  | bound + 1, first, cs => do
    match ← nextElement first cs with
    | none => return ([], ← closeArray cs)
    | some cs =>
      let (x, cs) ← readNumber cs
      let (xs, cs) ← readElements bound false cs
      return (x :: xs, cs)

def readNumbers (cs : List Char) : Except Fault (List Float × List Char) :=
  match skipBlanks cs with
  | '[' :: rest => readElements (rest.length + 1) true rest
  | rest => .error (wrongType "a sequence" rest)

/-- The fields met so far. -/
structure Draft where
  id : Option String
  eigenvalues : Option (List Float)
  score : Option Float
  deriving DecidableEq, Repr

def Draft.empty : Draft := ⟨none, none, none⟩

def Draft.payload (draft : Draft) : Payload :=
  ⟨draft.id.getD "", draft.eigenvalues.getD [], draft.score.getD 0⟩

def Draft.has (draft : Draft) (name : String) : Bool :=
  name == "id" && draft.id.isSome || name == "eigenvalues" && draft.eigenvalues.isSome ||
    name == "score" && draft.score.isSome

/-- Reads the value of a member into the draft. -/
def Draft.readField (draft : Draft) (name : String) (cs : List Char) :
    Except Fault (Draft × List Char) :=
  if name = "id" then
    (readOrNull "" readText cs).map fun (x, rest) => ({ draft with id := some x }, rest)
  else if name = "eigenvalues" then
    (readOrNull [] readNumbers cs).map fun (x, rest) => ({ draft with eigenvalues := some x }, rest)
  else if name = "score" then
    (readOrNull 0 readNumber cs).map fun (x, rest) => ({ draft with score := some x }, rest)
  else (skipValue cs).map (draft, ·)

/-- A name met twice is reported behind it, its blanks and the brace that may follow. -/
def duplicate (name : String) (cs : List Char) : Fault :=
  match skipBlanks cs with
  | '\x7d' :: rest => .at rest (.duplicateField name)
  | rest => .at rest (.duplicateField name)

/-- Reads a member from behind the opening quote of its name. -/
def readMember (draft : Draft) (cs : List Char) : Except Fault (Draft × List Char) := do
  let (name, cs) ← readString cs
  let name := String.ofList name
  if draft.has name then .error (duplicate name cs)
  else
    match skipBlanks cs with
    | [] => .error (.at [] .endOfObject)
    | ':' :: rest => draft.readField name rest
    | rest => .error (.within rest .expectedColon)

/-- Reads the further members of an object; the bound is on their count. -/
def readMembers : Nat → Draft → List Char → Except Fault (Draft × List Char)
  | 0, _, cs => .error (.at cs .endOfObject)
  | bound + 1, draft, cs =>
    match skipBlanks cs with
    | [] => .error (.at [] .endOfObject)
    | '\x7d' :: rest => .ok (draft, rest)
    | ',' :: rest =>
      match skipBlanks rest with
      | [] => .error (.at [] .endOfValue)
      | '"' :: rest => do
        let (draft, rest) ← readMember draft rest
        readMembers bound draft rest
      | '\x7d' :: rest => .error (.within ('\x7d' :: rest) .trailingComma)
      | rest => .error (.within rest .nameNotString)
    | rest => .error (.within rest .expectedCommaOrBrace)

/-- Reads an object from behind its opening brace. -/
def readObject (cs : List Char) : Except Fault (Draft × List Char) :=
  match skipBlanks cs with
  | [] => .error (.at [] .endOfObject)
  | '\x7d' :: rest => .ok (.empty, rest)
  | '"' :: rest => do
    let (draft, rest) ← readMember .empty rest
    readMembers (rest.length + 1) draft rest
  | rest => .error (.within rest .nameNotString)

/-- Reads an array from behind its opening bracket: id, eigenvalues and score in this order. -/
def readArray (cs : List Char) : Except Fault (Draft × List Char) := do
  match ← nextElement true cs with
  | none => return (.empty, ← closeArray cs)
  | some cs =>
    let (id, cs) ← readOrNull "" readText cs
    match ← nextElement false cs with
    | none => return (⟨some id, none, none⟩, ← closeArray cs)
    | some cs =>
      let (eigenvalues, cs) ← readOrNull [] readNumbers cs
      match ← nextElement false cs with
      | none => return (⟨some id, some eigenvalues, none⟩, ← closeArray cs)
      | some cs =>
        let (score, cs) ← readOrNull 0 readNumber cs
        return (⟨some id, some eigenvalues, some score⟩, ← closeArray cs)

def read (cs : List Char) : Except Fault (Payload × List Char) :=
  match skipBlanks cs with
  | 'n' :: rest => (readWord ['u', 'l', 'l'] rest).map (Payload.zero, ·)
  | '\x7b' :: rest => (readObject rest).map fun (draft, rest) => (draft.payload, rest)
  | '[' :: rest => (readArray rest).map fun (draft, rest) => (draft.payload, rest)
  | rest => .error (wrongType "struct WorkItemPayload" rest)

/-- Reads a payload after which only blanks follow. -/
def readAll (cs : List Char) : Except Fault Payload := do
  let (payload, rest) ← read cs
  match skipBlanks rest with
  | [] => return payload
  | rest => .error (.within rest .trailingCharacters)

end Payload

/-- A fault of a payload text at its place. -/
structure PayloadError where
  cause : Json.Cause
  place : Json.Place
  deriving DecidableEq, Repr

def PayloadError.message (e : PayloadError) : String :=
  "Invalid work-item payload: " ++ e.cause.message ++ " at line " ++
    String.ofList (Decimal.digits e.place.line) ++ " column " ++
    String.ofList (Decimal.digits e.place.column)

def Payload.decode (text : String) : Except PayloadError Payload :=
  match Payload.readAll text.toList with
  | .ok payload => .ok payload
  | .error fault => .error ⟨fault.cause, fault.place text.toList⟩

end AggregateStage
