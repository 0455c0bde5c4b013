import AggregateStage.Decimal.Numeral
import AggregateStage.Text.Hex

/-! Numbers and dates of a document. Of a date only its form and ranges are checked. -/
namespace AggregateStage.Toml

/-- Reads further digits; an underscore may stand between two digits. -/
def moreDigits (digit : Char → Bool) : List Char → List Char × List Char
  | '_' :: c :: rest =>
    if digit c then
      let (ds, rest) := moreDigits digit rest
      (c :: ds, rest)
    else ([], '_' :: c :: rest)
  | c :: rest =>
    if digit c then
      let (ds, rest) := moreDigits digit rest
      (c :: ds, rest)
    else ([], c :: rest)
  | [] => ([], [])

def readDigits (digit : Char → Bool) : List Char → Option (List Char × List Char)
  | c :: rest =>
    if digit c then
      let (ds, rest) := moreDigits digit rest
      some (c :: ds, rest)
    else none
  | [] => none

/-- Reads the digits of a decimal number, a zero only by itself. -/
def readWhole : List Char → Option (List Char × List Char)
  | '0' :: rest => some (['0'], rest)
  | cs => readDigits Decimal.isDigit cs

def readExponent : List Char → Option (Int × List Char)
  | 'e' :: rest | 'E' :: rest => do
    let (negative, rest) := Decimal.Numeral.readSign rest
    let (ds, rest) ← readDigits Decimal.isDigit rest
    return (if negative then -(Decimal.ofDigits ds : Int) else Decimal.ofDigits ds, rest)
  | _ => none

/-- Reads a number with a fraction, an exponent or both. One too large is no number when it
is positive. -/
def readReal (cs : List Char) : Option (Float × List Char) := do
  let (negative, cs) := Decimal.Numeral.readSign cs
  match cs with
  | 'i' :: 'n' :: 'f' :: rest => return (if negative then -(1 / 0) else 1 / 0, rest)
  | 'n' :: 'a' :: 'n' :: rest => return (0 / 0, rest)
  | cs =>
    let (whole, rest) ← readWhole cs
    let (fraction, exponent, rest) ← match rest with
      | '.' :: rest => do
        let (fraction, rest) ← readDigits Decimal.isDigit rest
        match readExponent rest with
        | some (exponent, rest) => some (fraction, exponent, rest)
        | none => some (fraction, 0, rest)
      | rest => (readExponent rest).map fun (exponent, rest) => ([], exponent, rest)
    let x := Decimal.Numeral.toFloat ⟨negative, whole, fraction, exponent⟩
    if x == 1 / 0 then none else return (x, rest)

/-- Reads digits to a base as a number of 64 bits with a sign. -/
def readBased (base : Nat) (cs : List Char) : Option (Int × List Char) := do
  let (ds, rest) ← readDigits (fun c => match Text.hexValue c with
    | some value => decide (value < base)
    | none => false) cs
  let n := ds.foldl (fun n c => base * n + (Text.hexValue c).getD 0) 0
  if n < Nat.pow 2 63 then return ((n : Int), rest) else none

def readInteger : List Char → Option (Int × List Char)
  | '0' :: 'x' :: rest => readBased 16 rest
  | '0' :: 'o' :: rest => readBased 8 rest
  | '0' :: 'b' :: rest => readBased 2 rest
  | cs => do
    let (negative, cs) := Decimal.Numeral.readSign cs
    let (ds, rest) ← readWhole cs
    let n : Int := if negative then -(Decimal.ofDigits ds : Int) else Decimal.ofDigits ds
    if -(Nat.pow 2 63 : Int) ≤ n ∧ n < Nat.pow 2 63 then return (n, rest) else none

/-- Reads a number of two digits within a range. -/
def readTwo (low high : Nat) : List Char → Option (Nat × List Char)
  | a :: b :: rest =>
    let n := Decimal.ofDigits [a, b]
    if Decimal.isDigit a ∧ Decimal.isDigit b ∧ low ≤ n ∧ n ≤ high then some (n, rest) else none
  | _ => none

def readMark (mark : Char) : List Char → Option (List Char)
  | c :: rest => if c = mark then some rest else none
  | [] => none

def daysOf (year month : Nat) : Nat :=
  if month = 2 then
    if year % 4 = 0 ∧ (year % 100 ≠ 0 ∨ year % 400 = 0) then 29 else 28
  else if month = 4 ∨ month = 6 ∨ month = 9 ∨ month = 11 then 30
  else 31

def readDay (cs : List Char) : Option (List Char) := do
  let ds := cs.take 4
  if ds.length < 4 ∨ !ds.all Decimal.isDigit then none
  let rest ← readMark '-' (cs.drop 4)
  let (month, rest) ← readTwo 1 12 rest
  let rest ← readMark '-' rest
  let (_, rest) ← readTwo 1 (daysOf (Decimal.ofDigits ds) month) rest
  return rest

/-- Seconds go to sixty for the sake of leap seconds. -/
def readTime (cs : List Char) : Option (List Char) := do
  let (_, rest) ← readTwo 0 23 cs
  let (_, rest) ← readTwo 0 59 (← readMark ':' rest)
  let (_, rest) ← readTwo 0 60 (← readMark ':' rest)
  match rest with
  | '.' :: part =>
    let ds := part.takeWhile Decimal.isDigit
    return if ds.isEmpty then rest else part.drop ds.length
  | _ => return rest

def readOffset : List Char → Option (List Char)
  | 'Z' :: rest | 'z' :: rest => some rest
  | '+' :: rest | '-' :: rest => do
    let (_, rest) ← readTwo 0 23 rest
    let (_, rest) ← readTwo 0 59 (← readMark ':' rest)
    return rest
  | _ => none

/-- Reads a date, a time, or both with or without an offset. -/
def readDate (cs : List Char) : Option (List Char) :=
  match readDay cs with
  | none => readTime cs
  | some rest =>
    let time := match rest with
      | 'T' :: rest | 't' :: rest | ' ' :: rest => readTime rest
      | _ => none
    match time with
    | none => some rest
    | some rest => some ((readOffset rest).getD rest)

end AggregateStage.Toml
