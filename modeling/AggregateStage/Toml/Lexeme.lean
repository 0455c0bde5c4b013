import AggregateStage.Text.Escaped

/-! The smallest parts of a document: blanks, ends of lines, strings and keys. Each reader
takes the text from its place on and gives back the rest. -/
namespace AggregateStage.Toml

def isBlank (c : Char) : Bool := c == ' ' || c == '\t'

def skipBlanks (cs : List Char) : List Char := cs.dropWhile isBlank

def readNewline : List Char → Option (List Char)
  | '\n' :: rest => some rest
  | '\r' :: '\n' :: rest => some rest
  | _ => none

/-- Passes over a comment, if there is one, up to the end of its line. -/
def skipComment : List Char → List Char
  | '#' :: rest => rest.dropWhile Text.standsForItself
  | rest => rest

/-- Reads what may follow an expression on its line. -/
def readLineEnd (cs : List Char) : Option (List Char) :=
  match skipComment (skipBlanks cs) with
  | [] => some []
  | rest => readNewline rest

/-- Passes over blanks, comments and ends of lines; the bound is on the number of lines. -/
def skipLines : Nat → List Char → Option (List Char)
  | 0, _ => none
  | bound + 1, cs =>
    match skipBlanks cs with
    | '#' :: rest => (readNewline (skipComment ('#' :: rest))).bind (skipLines bound)
    | '\n' :: rest => skipLines bound rest
    | '\r' :: rest => (readNewline ('\r' :: rest)).bind (skipLines bound)
    | rest => some rest

/-- Passes over blanks and ends of lines behind a backslash that ends a line. -/
def skipFold : Nat → List Char → List Char
  | 0, cs => cs
  | bound + 1, cs =>
    match readNewline (skipBlanks cs) with
    | some rest => skipFold bound rest
    | none => skipBlanks cs

/-- Reads text between single quotes from behind the opening one. -/
def readLiteral (cs : List Char) : Option (List Char × List Char) :=
  let (body, rest) := cs.span fun c => Text.standsForItself c && c != '\''
  match rest with
  | '\'' :: rest => some (body, rest)
  | _ => none

/-- The quotes that end text of many lines: three close it, up to two before them belong to
it, and fewer than three are text. The first part is text, the second tells the end. -/
def readQuotes (quote : Char) (cs : List Char) : Option (List Char × Bool × List Char) :=
  let run := cs.takeWhile (· == quote)
  let rest := cs.dropWhile (· == quote)
  if run.length < 3 then some (run, false, rest)
  else if run.length ≤ 5 then some (run.drop 3, true, rest)
  else none

/-- Reads text of many lines from behind its opening quotes, with escapes or without. A line
end is always a line feed. The bound is on the number of characters read. -/
def readLong (quote : Char) : Nat → List Char → Option (List Char × List Char)
  | 0, _ => none
  | _, [] => none
  | bound + 1, c :: rest =>
    if c = quote then do
      let (text, ends, rest) ← readQuotes quote (c :: rest)
      if ends then return (text, rest)
      else
        let (more, rest) ← readLong quote bound rest
        return (text ++ more, rest)
    else if c = '\\' ∧ quote = '"' then
      match readNewline (skipBlanks rest) with
      | some folded => readLong quote bound (skipFold folded.length folded)
      | none => do
        let (c, rest) ← Text.readEscape rest
        let (more, rest) ← readLong quote bound rest
        return (c :: more, rest)
    else
      match readNewline (c :: rest) with
      | some rest => (readLong quote bound rest).map fun (more, rest) => ('\n' :: more, rest)
      | none =>
        if Text.standsForItself c then
          (readLong quote bound rest).map fun (more, rest) => (c :: more, rest)
        else none

/-- A line end right behind the opening quotes is not part of the text. -/
def readLongText (quote : Char) (cs : List Char) : Option (List Char × List Char) :=
  readLong quote (cs.length + 1) ((readNewline cs).getD cs)

def readText : List Char → Option (List Char × List Char)
  | '"' :: '"' :: '"' :: rest => readLongText '"' rest
  | '"' :: rest => Text.readEscaped rest
  | '\'' :: '\'' :: '\'' :: rest => readLongText '\'' rest
  | '\'' :: rest => readLiteral rest
  | _ => none

def isKeyChar (c : Char) : Bool := c.isAlphanum || c == '-' || c == '_'

def readKeyPart : List Char → Option (List Char × List Char)
  | '"' :: rest => Text.readEscaped rest
  | '\'' :: rest => readLiteral rest
  | cs =>
    let (part, rest) := cs.span isKeyChar
    if part.isEmpty then none else some (part, rest)

/-- Reads the parts of a key and the blanks around them; the bound is on their number. -/
def readParts : Nat → List Char → Option (List String × List Char)
  | 0, _ => none
  | bound + 1, cs => do
    let (part, rest) ← readKeyPart (skipBlanks cs)
    match skipBlanks rest with
    | '.' :: rest =>
      (readParts bound rest).map fun (parts, rest) => (String.ofList part :: parts, rest)
    | rest => return ([String.ofList part], rest)

/-- Levels of nesting, by values or by a key, have to stay below this. -/
def nestingLimit : Nat := 80

/-- Reads a key; it has fewer parts than the limit. -/
def readKey (cs : List Char) : Option (List String × List Char) := readParts (nestingLimit - 1) cs

end AggregateStage.Toml
