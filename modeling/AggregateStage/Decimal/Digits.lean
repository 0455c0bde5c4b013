/-! Decimal digits of natural numbers, and the parts from which number texts are made. -/
namespace AggregateStage.Decimal

def isDigit (c : Char) : Bool := decide ('0' ≤ c) && decide (c ≤ '9')

def digitValue (c : Char) : Nat := c.toNat - '0'.toNat

def ofDigits (digits : List Char) : Nat :=
  digits.foldl (fun value c => 10 * value + digitValue c) 0

def digits (n : Nat) : List Char := Nat.toDigits 10 n

/-- Digits of a number, with zeros before them up to a width. -/
def padded (width n : Nat) : List Char :=
  List.replicate (width - (digits n).length) '0' ++ digits n

/-- Reads an unsigned number below a limit: an optional plus sign and at least one digit. -/
def unsigned? (limit : Nat) (text : List Char) : Option Nat :=
  let ds := match text with
    | '+' :: ds => ds
    | ds => ds
  if ds.isEmpty || !ds.all isDigit then none
  else
    let n := ofDigits ds
    if n < limit then some n else none

def integer (n : Int) : String :=
  match n with
  | .ofNat n => String.ofList (digits n)
  | .negSucc n => String.ofList ('-' :: digits (n + 1))

end AggregateStage.Decimal
