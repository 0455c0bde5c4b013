import AggregateStage.Toml.Lexeme
import AggregateStage.Toml.Node
import AggregateStage.Toml.Number

/-! Documents read from their text. There is one way to fail: the text is no document. -/
namespace AggregateStage.Toml

def startsNumber (c : Char) : Bool := c == '+' || c == '-' || Decimal.isDigit c

/-- Reads a date or a number. -/
def readNumber (cs : List Char) : Option (Node × List Char) :=
  match readDate cs, readReal cs with
  | some rest, _ => some (.date, rest)
  | none, some (x, rest) => some (.real x, rest)
  | none, none => (readInteger cs).map fun (n, rest) => (.integer n, rest)

mutual

/-- Reads a value within a number of levels; the bound is on the parts read. -/
def readValue : Nat → Nat → List Char → Option (Node × List Char)
  | 0, _, _ => none
  | bound + 1, level, cs =>
    match cs with
    | [] => none
    | '[' :: rest =>
      if level + 1 < nestingLimit then
        (readItems bound (level + 1) rest).map fun (items, rest) => (.array items, rest)
      else none
    | '\x7b' :: rest =>
      if level + 1 < nestingLimit then
        (readMembers bound (level + 1) true [] rest).map fun (entries, rest) =>
          (.braces false entries, rest)
      else none
    | 't' :: 'r' :: 'u' :: 'e' :: rest => some (.boolean true, rest)
    | 'f' :: 'a' :: 'l' :: 's' :: 'e' :: rest => some (.boolean false, rest)
    | 'i' :: _ | 'n' :: _ => (readReal cs).map fun (x, rest) => (.real x, rest)
    | c :: _ =>
      if startsNumber c then readNumber cs
      else (readText cs).map fun (text, rest) => (.text (String.ofList text), rest)

/-- Reads what is left of an array. Its items may stand on lines of their own, and a comma
may come last. -/
def readItems : Nat → Nat → List Char → Option (List Node × List Char)
  | 0, _, _ => none
  | bound + 1, level, cs => do
    match ← skipLines (cs.length + 1) cs with
    | ']' :: rest => return ([], rest)
    | cs =>
      let (item, rest) ← readValue bound level cs
      match ← skipLines (rest.length + 1) rest with
      | ']' :: rest => return ([item], rest)
      | ',' :: rest =>
        (readItems bound level rest).map fun (items, rest) => (item :: items, rest)
      | _ => none

/-- Reads what is left of a table in braces into the entries that it has. -/
def readMembers : Nat → Nat → Bool → Entries → List Char → Option (Entries × List Char)
  | 0, _, _, _, _ => none
  | bound + 1, level, first, entries, cs => do
    match skipBlanks cs, first with
    | '\x7d' :: rest, true => return (entries, rest)
    | cs, _ =>
      let (path, rest) ← readKey cs
      let rest ← readMark '=' rest
      let (value, rest) ← readValue bound level (skipBlanks rest)
      let entries ← entries.addWithin path.dropLast (path.getLast?.getD "") value
      match skipBlanks rest with
      | '\x7d' :: rest => return (entries, rest)
      | ',' :: rest => readMembers bound level false entries rest
      | _ => none

end

/-- Reads a key, its value and the end of the line into a document. -/
def readAssignment (d : Document) (cs : List Char) : Option (Document × List Char) := do
  let (path, rest) ← readKey cs
  let rest ← readMark '=' rest
  let (value, rest) ← readValue (2 * rest.length + 2) 0 (skipBlanks rest)
  let rest ← readLineEnd rest
  return (← d.add path.dropLast (path.getLast?.getD "") value, rest)

/-- Reads a header from behind its first bracket. -/
def readHeader (d : Document) (cs : List Char) : Option (Document × List Char) := do
  match cs with
  | '[' :: cs =>
    let (path, rest) ← readKey cs
    let rest ← readLineEnd (← readMark ']' (← readMark ']' rest))
    return (← d.declareElement path, rest)
  | cs =>
    let (path, rest) ← readKey cs
    let rest ← readLineEnd (← readMark ']' rest)
    return (← d.declareTable path, rest)

/-- Reads the lines of a text into a document; the bound is on their number. -/
def readLines : Nat → Document → List Char → Option Document
  | 0, _, _ => none
  | bound + 1, d, cs => do
    match skipBlanks cs with
    | [] => return d
    | '#' :: rest => readLines bound d (← readLineEnd ('#' :: rest))
    | '[' :: rest =>
      let (d, rest) ← readHeader d rest
      readLines bound d rest
    | c :: rest =>
      match readNewline (c :: rest) with
      | some rest => readLines bound d rest
      | none =>
        let (d, rest) ← readAssignment d (c :: rest)
        readLines bound d rest

/-- The entries of a document; a mark of byte order before it is passed over. -/
def parse? (text : String) : Option Entries :=
  let cs := match text.toList with
    | '\ufeff' :: cs => cs
    | cs => cs
  (readLines (cs.length + 1) .empty cs).map Document.entries

end AggregateStage.Toml
