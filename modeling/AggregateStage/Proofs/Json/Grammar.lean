import AggregateStage.Proofs.Json.Utf16

/-! The grammar of JSON text, apart from any reader of it. A relation between a text and
its rest says that the text begins with something that is written and goes on with the
rest, so that what may be written in many ways needs no printer. -/
namespace AggregateStage.Json

/-- What a text says: a number by its digits and a string by its UTF-16 code units, since
escapes can name surrogates that stand for no character. -/
inductive Document where
  | null
  | boolean (value : Bool)
  | number (numeral : Numeral)
  | string (units : List Nat)
  | array (elements : List Document)
  | object (members : List (List Nat × Document))

def IsBlank (c : Char) : Prop := c = ' ' ∨ c = '\t' ∨ c = '\n' ∨ c = '\r'

/-- Any number of blanks before the rest. -/
inductive Blanks : List Char → List Char → Prop
  | none (rest : List Char) : Blanks rest rest
  | more {c : Char} {text rest : List Char} :
      IsBlank c → Blanks text rest → Blanks (c :: text) rest

/-- The letters that may follow a backslash, with what they stand for. -/
def shortEscapes : List (Char × Char) :=
  [('"', '"'), ('\\', '\\'), ('/', '/'), ('b', '\x08'), ('f', '\x0c'), ('n', '\n'),
    ('r', '\r'), ('t', '\t')]

/-- A hexadecimal digit in either case. -/
def HexDigit (c : Char) (value : Nat) : Prop :=
  value < 16 ∧ (c = Nat.digitChar value ∨ c = (Nat.digitChar value).toUpper)

/-- A string from behind its opening quote to behind its closing one. -/
inductive Quoted : List Nat → List Char → List Char → Prop
  | close (rest : List Char) : Quoted [] ('"' :: rest) rest
  | literal {c : Char} {units : List Nat} {text rest : List Char} :
      0x20 ≤ c.toNat → c ≠ '"' → c ≠ '\\' → Quoted units text rest →
      Quoted (utf16 c ++ units) (c :: text) rest
  | short {letter c : Char} {units : List Nat} {text rest : List Char} :
      (letter, c) ∈ shortEscapes → Quoted units text rest →
      Quoted (c.toNat :: units) ('\\' :: letter :: text) rest
  | unit {a b c d : Char} {i j k l : Nat} {units : List Nat} {text rest : List Char} :
      HexDigit a i → HexDigit b j → HexDigit c k → HexDigit d l → Quoted units text rest →
      Quoted ((((i * 16 + j) * 16 + k) * 16 + l) :: units)
        ('\\' :: 'u' :: a :: b :: c :: d :: text) rest

def AllDigits (digits : List Char) : Prop :=
  digits ≠ [] ∧ ∀ digit ∈ digits, Decimal.isDigit digit = true

/-- Digits before the point: no zero comes before another digit. -/
inductive WholePart : List Char → Prop
  | zero : WholePart ['0']
  | digits {digit : Char} {more : List Char} :
      digit ≠ '0' → AllDigits (digit :: more) → WholePart (digit :: more)

/-- Digits behind the point, and their text. -/
inductive FractionPart : List Char → List Char → Prop
  | absent : FractionPart [] []
  | digits {digits : List Char} : AllDigits digits → FractionPart digits ('.' :: digits)

/-- Sign and digits of an exponent, and their text. -/
inductive ExponentPart : Option (Bool × List Char) → List Char → Prop
  | absent : ExponentPart none []
  | unsigned {mark : Char} {digits : List Char} : mark = 'e' ∨ mark = 'E' → AllDigits digits →
      ExponentPart (some (false, digits)) (mark :: digits)
  | plus {mark : Char} {digits : List Char} : mark = 'e' ∨ mark = 'E' → AllDigits digits →
      ExponentPart (some (false, digits)) (mark :: '+' :: digits)
  | minus {mark : Char} {digits : List Char} : mark = 'e' ∨ mark = 'E' → AllDigits digits →
      ExponentPart (some (true, digits)) (mark :: '-' :: digits)

inductive Numeral.Written (n : Numeral) : List Char → List Char → Prop
  | parts {fraction exponent rest : List Char} :
      WholePart n.whole → FractionPart n.fraction fraction → ExponentPart n.exponent exponent →
      Written n ((if n.negative then ['-'] else []) ++ (n.whole ++ (fraction ++ (exponent ++ rest))))
        rest

/-- The name of a member, its colon and the blanks around them. -/
inductive Name (units : List Nat) : List Char → List Char → Prop
  | colon {text inner behind rest : List Char} :
      Blanks text ('"' :: inner) → Quoted units inner behind → Blanks behind (':' :: rest) →
      Name units text rest

/-- What can be written. Lists go from behind an opening bracket or an earlier part to
behind their closing bracket. -/
inductive Part where
  | value (document : Document)
  | elements (list : List Document)
  /-- Elements behind another one. -/
  | moreElements (list : List Document)
  | members (list : List (List Nat × Document))
  /-- Members behind another one. -/
  | moreMembers (list : List (List Nat × Document))

/-- A text that begins with a part and goes on with the rest. -/
inductive Writes : Part → List Char → List Char → Prop
  | null (rest : List Char) : Writes (.value .null) ('n' :: 'u' :: 'l' :: 'l' :: rest) rest
  | yes (rest : List Char) :
      Writes (.value (.boolean true)) ('t' :: 'r' :: 'u' :: 'e' :: rest) rest
  | no (rest : List Char) :
      Writes (.value (.boolean false)) ('f' :: 'a' :: 'l' :: 's' :: 'e' :: rest) rest
  | number {n : Numeral} {text rest : List Char} :
      n.Written text rest → Writes (.value (.number n)) text rest
  | string {units : List Nat} {text rest : List Char} :
      Quoted units text rest → Writes (.value (.string units)) ('"' :: text) rest
  | array {list : List Document} {text rest : List Char} :
      Writes (.elements list) text rest → Writes (.value (.array list)) ('[' :: text) rest
  | object {list : List (List Nat × Document)} {text rest : List Char} :
      Writes (.members list) text rest → Writes (.value (.object list)) ('\x7b' :: text) rest
  | noElements {text rest : List Char} :
      Blanks text (']' :: rest) → Writes (.elements []) text rest
  | elements {document : Document} {list : List Document} {text first behind rest : List Char} :
      Blanks text first → Writes (.value document) first behind →
      Writes (.moreElements list) behind rest → Writes (.elements (document :: list)) text rest
  | endElements {text rest : List Char} :
      Blanks text (']' :: rest) → Writes (.moreElements []) text rest
  | nextElement {document : Document} {list : List Document} {text inner rest : List Char} :
      Blanks text (',' :: inner) → Writes (.elements (document :: list)) inner rest →
      Writes (.moreElements (document :: list)) text rest
  | noMembers {text rest : List Char} :
      Blanks text ('\x7d' :: rest) → Writes (.members []) text rest
  | members {units : List Nat} {document : Document} {list : List (List Nat × Document)}
      {text named first behind rest : List Char} :
      Name units text named → Blanks named first → Writes (.value document) first behind →
      Writes (.moreMembers list) behind rest →
      Writes (.members ((units, document) :: list)) text rest
  | endMembers {text rest : List Char} :
      Blanks text ('\x7d' :: rest) → Writes (.moreMembers []) text rest
  | nextMember {member : List Nat × Document} {list : List (List Nat × Document)}
      {text inner rest : List Char} :
      Blanks text (',' :: inner) → Writes (.members (member :: list)) inner rest →
      Writes (.moreMembers (member :: list)) text rest

/-- A text that holds a document and nothing else but blanks around it. -/
def Document.WrittenAs (document : Document) (text : List Char) : Prop :=
  ∃ first behind, Blanks text first ∧ Writes (.value document) first behind ∧ Blanks behind []

end AggregateStage.Json
