import AggregateStage.Binary64
import AggregateStage.Decimal.Digits

/-! Doubles written with a fixed number of decimal places. The exact value is rounded
once, and a half goes to the even neighbour. -/
namespace AggregateStage.Decimal

/-- The natural number nearest to a quotient, the even one when two are. -/
def roundDiv (num den : Nat) : Nat :=
  let q := num / den
  let r := num % den
  if 2 * r < den then q
  else if den < 2 * r then q + 1
  else q + q % 2

def fixed (places : Nat) (x : Float) : String :=
  if Binary64.isNaN x then "NaN"
  else
    let sign := if Binary64.negative x then ['-'] else []
    if Binary64.isInfinite x then String.ofList (sign ++ ['i', 'n', 'f'])
    else
      let unit := Nat.pow 10 places
      let n := roundDiv (Binary64.magnitude x * unit) Binary64.scale
      let whole := digits (n / unit)
      let part := if places = 0 then [] else '.' :: padded places (n % unit)
      String.ofList (sign ++ whole ++ part)

end AggregateStage.Decimal
