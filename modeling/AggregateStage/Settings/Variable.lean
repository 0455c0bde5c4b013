import AggregateStage.Decimal.Numeral
import AggregateStage.Settings.Value
import AggregateStage.Text.Class
import AggregateStage.Text.Escaped

/-! Settings in environment variables. The name says where a value belongs, and the text
of the value says of what type it is. -/
namespace AggregateStage

namespace Settings

/-- What a variable's name begins with, in any case. -/
def variableStart : String := "SLUICE_"

/-- What stands between the names of nested tables. -/
def variableSeparator : String := "__"

/-- Cuts text at each separator. -/
def splitSeparators : List Char → List (List Char)
  | [] => [[]]
  | '_' :: '_' :: rest => [] :: splitSeparators rest
  | '.' :: rest => [] :: splitSeparators rest
  | c :: rest =>
    match splitSeparators rest with
    | [] => [[c]]
    | part :: parts => (c :: part) :: parts

/-- The place that a variable sets, if it is one that holds a setting. Upper and lower
case are the same, and no part of a name may be empty. -/
def variablePath? (name : String) : Option (List String) :=
  let lower := (Text.trim name.toList).map Char.toLower
  let start := variableStart.toList.map Char.toLower
  if start.isPrefixOf lower then
    let parts := splitSeparators (Text.trim (lower.drop start.length))
    if parts.any List.isEmpty then none else some (parts.map String.ofList)
  else none

namespace Literal

def isBlank (c : Char) : Bool :=
  c == ' ' || c == '\t' || c == '\n' || c == '\x0c' || c == '\r'

def isPlain (c : Char) : Bool :=
  c != ',' && c != '\x7b' && c != '\x7d' && c != '[' && c != ']'

def skipBlanks (cs : List Char) : List Char := cs.dropWhile isBlank

/-- Plain text is a number if it reads as one; only text with a point can be a double. -/
def ofPlain (text : List Char) : Value :=
  match if text.contains '.' then Decimal.Numeral.parse? text else none with
  | some n => .real n.toFloat
  | none =>
    match Decimal.unsigned? (Nat.pow 2 64) text with
    | some n => .unsigned n
    | none =>
      match Decimal.signed? (-(Nat.pow 2 63 : Int)) (Nat.pow 2 63) text with
      | some n => .signed n
      | none => .text (String.ofList text)

def isNameChar (c : Char) : Bool := c.isAlphanum || c == '-' || c == '_'

/-- Reads the name of an entry and the sign behind it. -/
def readName (cs : List Char) : Option (String × List Char) := do
  let (name, rest) ← match skipBlanks cs with
    | '"' :: rest => Text.readEscaped rest
    | rest =>
      let (name, rest) := rest.span isNameChar
      if name.isEmpty then none else some (name, rest)
  match skipBlanks rest with
  | '=' :: rest => return (String.ofList name, rest)
  | _ => none

mutual

/-- Reads a value and the blanks around it; the bound is on the parts read. -/
def read : Nat → List Char → Option (Value × List Char)
  | 0, _ => none
  | bound + 1, cs => do
    let (value, rest) ← match skipBlanks cs with
      | 't' :: 'r' :: 'u' :: 'e' :: rest => some (.boolean true, rest)
      | 'f' :: 'a' :: 'l' :: 's' :: 'e' :: rest => some (.boolean false, rest)
      | '\x7b' :: rest => (readEntries bound rest).map fun (entries, rest) => (.table entries, rest)
      | '[' :: rest => (readItems bound rest).map fun (items, rest) => (.list items, rest)
      | '"' :: rest => (Text.readEscaped rest).map fun (s, rest) => (.text (String.ofList s), rest)
      | '\'' :: c :: '\'' :: rest => some (.text (String.singleton c), rest)
      | '\'' :: _ => none
      | cs => some (ofPlain (Text.trim (cs.takeWhile isPlain)), cs.dropWhile isPlain)
    return (value, skipBlanks rest)

/-- Reads what is left of a list. A comma may come last. -/
def readItems : Nat → List Char → Option (List Value × List Char)
  | 0, _ => none
  | _ + 1, ']' :: rest => some ([], rest)
  | bound + 1, cs => do
    let (item, rest) ← read bound cs
    match rest with
    | ']' :: rest => return ([item], rest)
    | ',' :: rest => (readItems bound rest).map fun (items, rest) => (item :: items, rest)
    | _ => none

/-- Reads what is left of a table, in which the last of two equal names counts. -/
def readEntries : Nat → List Char → Option (Table × List Char)
  | 0, _ => none
  | _ + 1, '\x7d' :: rest => some ([], rest)
  | bound + 1, cs => do
    let (name, rest) ← readName cs
    let (value, rest) ← read bound rest
    match rest with
    | '\x7d' :: rest => return ([(name, value)], rest)
    | ',' :: rest =>
      (readEntries bound rest).map fun (entries, rest) =>
        (if (entries.lookup name).isSome then entries else (name, value) :: entries, rest)
    | _ => none

end

/-- The value of a text; one that does not read as a whole is plain text as it is. Every
part but a list's first value takes at least one character. -/
def value (text : String) : Value :=
  match read (2 * text.length + 2) text.toList with
  | some (value, []) => value
  | _ => .text text

end Literal

/-- The table of all settings in an environment, later variables over earlier ones. -/
def ofEnvironment (environment : List (String × String)) : Table :=
  environment.foldl (fun table (name, text) =>
    match variablePath? name with
    | some (key :: path) => overTable [(key, (Literal.value text).nested path)] table
    | _ => table) []

end Settings

end AggregateStage
