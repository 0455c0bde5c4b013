import AggregateStage.Json.Fault

/-! The smallest parts of JSON text: blanks, words, strings and numerals. Each reader
takes the text from its place on and gives back the rest. -/
namespace AggregateStage.Json

def isBlank (c : Char) : Bool := c == ' ' || c == '\t' || c == '\n' || c == '\r'

def skipBlanks (cs : List Char) : List Char := cs.dropWhile isBlank

/-- Reads the letters of a word. -/
def readWord : List Char → List Char → Except Fault (List Char)
  | [], cs => .ok cs
  | _ :: _, [] => .error (.at [] .endOfValue)
  | due :: more, c :: cs =>
    if c = due then readWord more cs else .error (.within (c :: cs) .expectedWord)

/-- The code unit that four hexadecimal digits stand for. -/
def codeUnit (a b c d : Char) : Option Nat := do
  let a ← Text.hexValue a
  let b ← Text.hexValue b
  let c ← Text.hexValue c
  let d ← Text.hexValue d
  return ((a * 16 + b) * 16 + c) * 16 + d

def isLeading (unit : Nat) : Bool := decide (0xD800 ≤ unit) && decide (unit ≤ 0xDBFF)

def isTrailing (unit : Nat) : Bool := decide (0xDC00 ≤ unit) && decide (unit ≤ 0xDFFF)

def joinPair (leading trailing : Nat) : Char :=
  Char.ofNat (0x10000 + (leading - 0xD800) * 0x400 + (trailing - 0xDC00))

/-- The fault of text that should begin with four hexadecimal digits. -/
def badUnit (rest : List Char) : Fault :=
  if Text.byteCount rest < 4 then .at [] .endOfString else ⟨.invalidEscape, Text.byteCount rest - 4⟩

/-- What a letter after a backslash stands for. -/
def shortEscape : Char → Option Char
  | '"' => some '"'
  | '\\' => some '\\'
  | '/' => some '/'
  | 'b' => some '\x08'
  | 'f' => some '\x0c'
  | 'n' => some '\n'
  | 'r' => some '\r'
  | 't' => some '\t'
  | _ => none

def isControl (c : Char) : Bool := decide (c.toNat < 0x20)

def prepend (c : Char) (read : Except Fault (List Char × List Char)) :
    Except Fault (List Char × List Char) :=
  read.map fun (more, rest) => (c :: more, rest)

/-- Reads a string from behind its opening quote; surrogates have to come in pairs. -/
def readString : List Char → Except Fault (List Char × List Char)
  | [] => .error (.at [] .endOfString)
  | '"' :: rest => .ok ([], rest)
  | ['\\'] => .error (.at [] .endOfString)
  | '\\' :: 'u' :: a :: b :: c :: d :: rest =>
    match codeUnit a b c d with
    | none => .error (badUnit (a :: b :: c :: d :: rest))
    | some unit =>
      if isTrailing unit then .error (.at rest .loneSurrogate)
      else if isLeading unit then
        match rest with
        | '\\' :: 'u' :: e :: f :: g :: h :: rest =>
          match codeUnit e f g h with
          | none => .error (badUnit (e :: f :: g :: h :: rest))
          | some next =>
            if isTrailing next then prepend (joinPair unit next) (readString rest)
            else .error (.at rest .loneSurrogate)
        | '\\' :: 'u' :: rest => .error (badUnit rest)
        | [] | ['\\'] => .error (.at [] .endOfString)
        | '\\' :: rest => .error (.within rest .endOfSurrogatePair)
        | rest => .error (.within rest .endOfSurrogatePair)
      else prepend (Char.ofNat unit) (readString rest)
  | '\\' :: 'u' :: rest => .error (badUnit rest)
  | '\\' :: c :: rest =>
    match shortEscape c with
    | some c => prepend c (readString rest)
    | none => .error (.within (c :: rest) .invalidEscape)
  | c :: rest =>
    if isControl c then .error (.within (c :: rest) .controlCharacter)
    else prepend c (readString rest)

/-- Passes over a string from behind its opening quote; surrogates may stand alone. -/
def skipString : List Char → Except Fault (List Char)
  | [] => .error (.at [] .endOfString)
  | '"' :: rest => .ok rest
  | ['\\'] => .error (.at [] .endOfString)
  | '\\' :: 'u' :: a :: b :: c :: d :: rest =>
    match codeUnit a b c d with
    | none => .error (badUnit (a :: b :: c :: d :: rest))
    | some _ => skipString rest
  | '\\' :: 'u' :: rest => .error (badUnit rest)
  | '\\' :: c :: rest =>
    match shortEscape c with
    | some _ => skipString rest
    | none => .error (.within (c :: rest) .invalidEscape)
  | c :: rest =>
    if isControl c then .error (.at (c :: rest) .controlCharacter) else skipString rest

/-- A number as it is written. -/
structure Numeral where
  negative : Bool
  whole : List Char
  /-- Digits after the point; empty when there is no point. -/
  fraction : List Char
  /-- Sign and digits of the exponent. -/
  exponent : Option (Bool × List Char)
  deriving DecidableEq, Repr

/-- Digits of which there has to be one; otherwise the place where it is due. -/
def scanDigits (cs : List Char) : Except (List Char) (List Char × List Char) :=
  match cs.span Decimal.isDigit with
  | ([], rest) => .error rest
  | read => .ok read

/-- Digits that do not begin with a zero unless they are a single zero. -/
def scanWhole (cs : List Char) : Except (List Char) (List Char × List Char) := do
  match ← scanDigits cs with
  | ('0' :: digit :: more, rest) => .error (digit :: more ++ rest)
  | read => .ok read

def scanFraction : List Char → Except (List Char) (List Char × List Char)
  | '.' :: cs => scanDigits cs
  | cs => .ok ([], cs)

def scanExponent : List Char → Except (List Char) (Option (Bool × List Char) × List Char)
  | c :: cs =>
    if c = 'e' ∨ c = 'E' then
      match cs with
      | '+' :: cs => (scanDigits cs).map fun (digits, rest) => (some (false, digits), rest)
      | '-' :: cs => (scanDigits cs).map fun (digits, rest) => (some (true, digits), rest)
      | cs => (scanDigits cs).map fun (digits, rest) => (some (false, digits), rest)
    else .ok (none, c :: cs)
  | [] => .ok (none, [])

/-- Scans a numeral; otherwise the place where a digit is due, or is one too many. -/
def scanNumeral (cs : List Char) : Except (List Char) (Numeral × List Char) := do
  let (negative, cs) := match cs with
    | '-' :: cs => (true, cs)
    | cs => (false, cs)
  let (whole, cs) ← scanWhole cs
  let (fraction, cs) ← scanFraction cs
  let (exponent, cs) ← scanExponent cs
  return (⟨negative, whole, fraction, exponent⟩, cs)

end AggregateStage.Json
