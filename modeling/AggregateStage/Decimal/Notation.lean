import AggregateStage.Decimal.Shortest

/-! Texts of doubles in their shortest digits. The two forms differ in where positional
notation ends and in whether a whole number keeps a decimal place. -/
namespace AggregateStage.Decimal

/-- Decisions of a number format. -/
structure Notation where
  /-- Whether 0.d₁d₂… × 10^point is written without an exponent. -/
  positional : Int → Bool
  /-- What a whole number has after its digits. -/
  wholeSuffix : List Char

/-- Positional from 0.00001 up to below 10^16, always with a decimal place. -/
def Notation.payload : Notation where
  positional := fun point => decide (-4 ≤ point) && decide (point ≤ 16)
  wholeSuffix := ['.', '0']

/-- Always positional, whole numbers without a decimal place. -/
def Notation.setting : Notation where
  positional := fun _ => true
  wholeSuffix := []

def exponentText (e : Int) : List Char :=
  'e' :: (if e < 0 then '-' else '+') :: digits e.natAbs

def Digits.positional (d : Digits) (wholeSuffix : List Char) : List Char :=
  if d.point ≤ 0 then '0' :: '.' :: (List.replicate (-d.point).toNat '0' ++ d.digits)
  else if (d.digits.length : Int) ≤ d.point then
    d.digits ++ List.replicate (d.point.toNat - d.digits.length) '0' ++ wholeSuffix
  else d.digits.take d.point.toNat ++ '.' :: d.digits.drop d.point.toNat

def Digits.scientific (d : Digits) : List Char :=
  match d.digits with
  | [] => ['0']
  | [one] => one :: exponentText (d.point - 1)
  | one :: more => one :: '.' :: (more ++ exponentText (d.point - 1))

def Notation.text (form : Notation) (x : Float) : String :=
  if Binary64.isNaN x then "NaN"
  else
    let sign := if Binary64.negative x then ['-'] else []
    let body :=
      if Binary64.isInfinite x then ['i', 'n', 'f']
      else if Binary64.magnitude x = 0 then '0' :: form.wholeSuffix
      else
        let d := shortest x
        if form.positional d.point then d.positional form.wholeSuffix else d.scientific
    String.ofList (sign ++ body)

end AggregateStage.Decimal
