/-! Doubles read as exact numbers. Every finite double is a whole number of units
of 2^-1074, so its magnitude is a natural number and comparing, rounding and
printing need no floating-point operation. -/
namespace AggregateStage.Binary64

/-- How many units make one. -/
def scale : Nat := Nat.pow 2 1074

def negative (x : Float) : Bool := decide (Nat.pow 2 63 ≤ x.toBits.toNat)

def exponent (x : Float) : Nat := x.toBits.toNat / Nat.pow 2 52 % Nat.pow 2 11

def fraction (x : Float) : Nat := x.toBits.toNat % Nat.pow 2 52

def isNaN (x : Float) : Bool := exponent x == 2047 && fraction x != 0

def isInfinite (x : Float) : Bool := exponent x == 2047 && fraction x == 0

/-- Units from one significand to the next; subnormals share the spacing of the
smallest normal doubles. -/
def spacing (x : Float) : Nat := Nat.pow 2 (exponent x - 1)

def significand (x : Float) : Nat :=
  if exponent x = 0 then fraction x else Nat.pow 2 52 + fraction x

/-- The absolute value of a finite double in units. -/
def magnitude (x : Float) : Nat := significand x * spacing x

/-- The value of a finite double in units. -/
def units (x : Float) : Int := if negative x then -(magnitude x : Int) else magnitude x

def ofInt64 (n : Int64) : Float :=
  if n < 0 then -(UInt64.ofNat n.toInt.natAbs).toFloat else n.toUInt64.toFloat

/-- The whole number nearest to a finite double, the one farther from zero when two are. -/
def nearest (x : Float) : Int :=
  let whole := (2 * magnitude x + scale) / (2 * scale)
  if negative x then -(whole : Int) else whole

def clamp (n : Int) : Int64 :=
  if n < Int64.minValue.toInt then Int64.minValue
  else if Int64.maxValue.toInt < n then Int64.maxValue
  else Int64.ofInt n

/-- Rounding into 64 bits: beyond the range the end of the range, zero for no number. -/
def toInt64 (x : Float) : Int64 :=
  if isNaN x then 0
  else if isInfinite x then if negative x then Int64.minValue else Int64.maxValue
  else clamp (nearest x)

end AggregateStage.Binary64
