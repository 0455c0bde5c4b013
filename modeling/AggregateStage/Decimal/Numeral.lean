import AggregateStage.Decimal.Digits

/-! Decimal numbers read from text: signed whole numbers, and doubles from digits with a
point and an exponent. -/
namespace AggregateStage.Decimal

/-- Reads a whole number from a lowest one up to below a limit: an optional sign and at
least one digit. -/
def signed? (lowest limit : Int) (text : List Char) : Option Int :=
  let (negative, ds) := match text with
    | '-' :: ds => (true, ds)
    | '+' :: ds => (false, ds)
    | ds => (false, ds)
  if ds.isEmpty || !ds.all isDigit then none
  else
    let n : Int := if negative then -(ofDigits ds : Int) else ofDigits ds
    if lowest ≤ n ∧ n < limit then some n else none

/-- A written number: digits before and after the point, times a power of ten. -/
structure Numeral where
  negative : Bool
  whole : List Char
  fraction : List Char
  exponent : Int
  deriving DecidableEq, Repr

namespace Numeral

/-- The double nearest to a number. Far outside the range it is infinite or zero. -/
def toFloat (n : Numeral) : Float :=
  let value := ofDigits (n.whole ++ n.fraction)
  let exponent := n.exponent - n.fraction.length
  let size := exponent + (digits value).length
  let magnitude : Float :=
    if value = 0 ∨ size < -400 then 0
    else if 400 < size then 1 / 0
    else Float.ofScientific value (decide (exponent < 0)) exponent.natAbs
  if n.negative then -magnitude else magnitude

def readSign : List Char → Bool × List Char
  | '-' :: rest => (true, rest)
  | '+' :: rest => (false, rest)
  | rest => (false, rest)

/-- The exponent that ends a number, zero when there is none. -/
def readExponent : List Char → Option Int
  | [] => some 0
  | mark :: rest =>
    let (negative, ds) := readSign rest
    if (mark = 'e' ∨ mark = 'E') ∧ ds ≠ [] ∧ ds.all isDigit then
      some (if negative then -(ofDigits ds : Int) else ofDigits ds)
    else none

/-- Reads a number; digits may be left out on one side of the point. -/
def parse? (text : List Char) : Option Numeral :=
  let (negative, rest) := readSign text
  let (whole, rest) := rest.span isDigit
  let (fraction, rest) := match rest with
    | '.' :: rest => rest.span isDigit
    | rest => ([], rest)
  if whole.isEmpty && fraction.isEmpty then none
  else (readExponent rest).map fun exponent => ⟨negative, whole, fraction, exponent⟩

end Numeral

end AggregateStage.Decimal
