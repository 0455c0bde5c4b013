import AggregateStage.Decimal.Notation
import AggregateStage.Text.Quoted
import AggregateStage.Text.Size

/-! Faults of JSON text. A fault keeps how many bytes of the text lie behind the place it
is reported at, so a reader that has only the rest of its text can state it; the whole
text turns that into a line and a column. -/
namespace AggregateStage.Json

/-- A value that stands where another kind of value is due. -/
inductive Found where
  | null
  | boolean (value : Bool)
  | integer (value : Int)
  | real (value : Float)
  | text (value : String)
  | array
  | object
  deriving DecidableEq, Repr

inductive Cause where
  | endOfValue
  | endOfList
  | endOfObject
  | endOfString
  | expectedValue
  | expectedWord
  | expectedColon
  | expectedCommaOrBracket
  | expectedCommaOrBrace
  | nameNotString
  | trailingComma
  | trailingCharacters
  | invalidNumber
  | numberOutOfRange
  | invalidEscape
  | controlCharacter
  | loneSurrogate
  | endOfSurrogatePair
  | wrongType (found : Found) (due : String)
  | duplicateField (name : String)
  deriving DecidableEq, Repr

inductive Category where
  | incomplete
  | syntactic
  | content
  deriving DecidableEq, Repr

def Cause.category : Cause → Category
  | .endOfValue | .endOfList | .endOfObject | .endOfString => .incomplete
  | .wrongType _ _ | .duplicateField _ => .content
  | _ => .syntactic

def Found.words : Found → String
  | .null => "null"
  | .boolean value => if value then "boolean `true`" else "boolean `false`"
  | .integer value => "integer `" ++ Decimal.integer value ++ "`"
  | .real value => "floating point `" ++ Decimal.Notation.payload.text value ++ "`"
  | .text value => "string " ++ Text.quoted value
  | .array => "sequence"
  | .object => "map"

def Cause.message : Cause → String
  | .endOfValue => "EOF while parsing a value"
  | .endOfList => "EOF while parsing a list"
  | .endOfObject => "EOF while parsing an object"
  | .endOfString => "EOF while parsing a string"
  | .expectedValue => "expected value"
  | .expectedWord => "expected ident"
  | .expectedColon => "expected `:`"
  | .expectedCommaOrBracket => "expected `,` or `]`"
  | .expectedCommaOrBrace => "expected `,` or `\x7d`"
  | .nameNotString => "key must be a string"
  | .trailingComma => "trailing comma"
  | .trailingCharacters => "trailing characters"
  | .invalidNumber => "invalid number"
  | .numberOutOfRange => "number out of range"
  | .invalidEscape => "invalid escape"
  | .controlCharacter => "control character (\\u0000-\\u001F) found while parsing a string"
  | .loneSurrogate => "lone leading surrogate in hex escape"
  | .endOfSurrogatePair => "unexpected end of hex escape"
  | .wrongType found due => "invalid type: " ++ found.words ++ ", expected " ++ due
  | .duplicateField name => "duplicate field `" ++ name ++ "`"

structure Fault where
  cause : Cause
  /-- Bytes of the text behind the reported place. -/
  left : Nat
  deriving DecidableEq, Repr

/-- A fault reported just before the rest of the text. -/
def Fault.at (rest : List Char) (cause : Cause) : Fault := ⟨cause, Text.byteCount rest⟩

/-- A fault reported one byte into the rest of the text, or at its end when it is empty. -/
def Fault.within (rest : List Char) (cause : Cause) : Fault := ⟨cause, Text.byteCount rest - 1⟩

structure Place where
  line : Nat
  column : Nat
  deriving DecidableEq, Repr

/-- The place reached after a number of bytes: lines from one, columns in bytes from zero. -/
def Place.advance (place : Place) : Nat → List Char → Place
  | _, [] => place
  | count, c :: rest =>
    if count = 0 then place
    else if c = '\n' then advance ⟨place.line + 1, 0⟩ (count - 1) rest
    else if count < c.utf8Size then ⟨place.line, place.column + count⟩
    else advance ⟨place.line, place.column + c.utf8Size⟩ (count - c.utf8Size) rest

def Fault.place (fault : Fault) (text : List Char) : Place :=
  Place.advance ⟨1, 0⟩ (Text.byteCount text - fault.left) text

end AggregateStage.Json
