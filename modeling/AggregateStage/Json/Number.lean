import AggregateStage.Json.Lexeme

/-! The value of a numeral. Digits are gathered into 64 bits, what does not fit is
dropped, and the power of ten is applied in double arithmetic, so that the result may
differ from the double nearest to what is written. -/
namespace AggregateStage.Json

inductive Number where
  | integer (value : Int)
  | real (value : Float)
  deriving DecidableEq, Repr

def Number.toFloat : Number → Float
  | .integer value =>
    let magnitude := (UInt64.ofNat value.natAbs).toFloat
    if value < 0 then -magnitude else magnitude
  | .real value => value

def Number.found : Number → Found
  | .integer value => .integer value
  | .real value => .real value

/-- Appends digits to a significand while it stays below 2^64; gives the digits left over. -/
def gather (significand : Nat) : List Char → Nat × List Char
  | [] => (significand, [])
  | digit :: more =>
    let next := 10 * significand + Decimal.digitValue digit
    if next < Nat.pow 2 64 then gather next more else (significand, digit :: more)

/-- Reads a written exponent of at most 2^31 - 1, or gives the digits behind the one that
takes it beyond. -/
def gatherExponent (value : Nat) : List Char → Except (List Char) Nat
  | [] => .ok value
  | digit :: more =>
    let next := 10 * value + Decimal.digitValue digit
    if next < Nat.pow 2 31 then gatherExponent next more else .error more

def saturate (e : Int) : Int := max (-2147483648) (min e 2147483647)

/-- The double nearest to a power of ten. -/
def powerOfTen (n : Nat) : Float := Float.ofScientific 1 false n

/-- Division by a power of ten, 308 places at a time. -/
def scaleDown (x : Float) (places : Nat) : Float :=
  if places ≤ 308 then x / powerOfTen places
  else if x == 0 then x
  else scaleDown (x / powerOfTen 308) (places - 308)
termination_by places

/-- Multiplication by a power of ten; `none` beyond the doubles. -/
def scaleUp (x : Float) (places : Nat) : Option Float :=
  if places ≤ 308 then
    let y := x * powerOfTen places
    if Binary64.isInfinite y then none else some y
  else if x == 0 then some x
  else none

/-- The double taken for significand × 10^power. -/
def scaled (significand : Nat) (power : Int) : Option Float :=
  let x := (UInt64.ofNat significand).toFloat
  if 0 ≤ power then scaleUp x power.toNat else some (scaleDown x (-power).toNat)

def signed (negative : Bool) (x : Float) : Float := if negative then -x else x

/-- Whole numbers keep their value; a negative zero and what lies below -2^63 do not. -/
def wholeNumber (negative : Bool) (significand : Nat) : Number :=
  if negative then
    if significand = 0 ∨ Nat.pow 2 63 < significand then
      .real (-(UInt64.ofNat significand).toFloat)
    else .integer (-(significand : Int))
  else .integer significand

/-- The value of a numeral that stands before the rest of a text. -/
def Numeral.value (n : Numeral) (rest : List Char) : Except Fault Number :=
  let (whole, dropped) := gather 0 n.whole
  let (significand, unread) := gather whole n.fraction
  let power : Int := (dropped.length : Int) - (n.fraction.length - unread.length : Nat)
  let real (power : Int) : Except Fault Number :=
    match scaled significand power with
    | some x => .ok (.real (signed n.negative x))
    | none => .error (.at rest .numberOutOfRange)
  match n.exponent with
  | none => if n.fraction.isEmpty && dropped.isEmpty then .ok (wholeNumber n.negative significand)
    else real power
  | some (down, digits) =>
    match gatherExponent 0 digits with
    | .ok e => real (saturate (if down then power - e else power + e))
    | .error more =>
      if significand ≠ 0 ∧ down = false then .error (.at (more ++ rest) .numberOutOfRange)
      else .ok (.real (signed n.negative 0))

/-- Reads a number whose first character has been recognised. -/
def readNumeral (cs : List Char) : Except Fault (Number × List Char) :=
  match scanNumeral cs with
  | .ok (n, rest) => (n.value rest).map (·, rest)
  | .error [] => .error (.at [] .endOfValue)
  | .error rest => .error (.within rest .invalidNumber)

end AggregateStage.Json
