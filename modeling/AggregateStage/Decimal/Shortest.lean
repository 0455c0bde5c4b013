import AggregateStage.Binary64
import AggregateStage.Decimal.Digits

/-! The fewest decimal digits that identify a double. A decimal identifies it when it
lies between the midpoints to the neighbouring doubles, the midpoints included for an
even significand. -/
namespace AggregateStage.Decimal

/-- The number 0.d₁d₂… × 10^point with the given digits. -/
structure Digits where
  digits : List Char
  point : Int
  deriving DecidableEq, Repr

/-- The least `k` with num / den < 10^k, looked for upwards from a start. -/
def leadingPlace (num den : Nat) : Nat → Int → Int
  | 0, k => k
  | fuel + 1, k =>
    let below := if 0 ≤ k then decide (num < den * Nat.pow 10 k.toNat)
      else decide (num * Nat.pow 10 (-k).toNat < den)
    if below then k else leadingPlace num den fuel (k + 1)

/-- The reals that read back as a given double, in quarters of a unit. -/
structure Interval where
  low : Nat
  high : Nat
  closed : Bool

/-- Below a power of two the next double is only half as far away. -/
def Interval.around (x : Float) : Interval :=
  let m := 4 * Binary64.magnitude x
  let step := Binary64.spacing x
  let narrow := Binary64.fraction x == 0 && decide (1 < Binary64.exponent x)
  { low := m - (if narrow then step else 2 * step)
    high := m + 2 * step
    closed := Binary64.significand x % 2 == 0 }

/-- Whether n × 10^place lies in the interval. -/
def Interval.holds (i : Interval) (n : Nat) (place : Int) : Bool :=
  let whole := if 0 ≤ place then n * Nat.pow 10 place.toNat else n
  let value := whole * (4 * Binary64.scale)
  let unit := if 0 ≤ place then 1 else Nat.pow 10 (-place).toNat
  if i.closed then decide (i.low * unit ≤ value) && decide (value ≤ i.high * unit)
  else decide (i.low * unit < value) && decide (value < i.high * unit)

/-- The two neighbours of a double on the grid of multiples of 10^place, nearer one first. -/
def neighbours (x : Float) (place : Int) : List Nat :=
  let num := if 0 ≤ place then Binary64.magnitude x
    else Binary64.magnitude x * Nat.pow 10 (-place).toNat
  let den := if 0 ≤ place then Binary64.scale * Nat.pow 10 place.toNat else Binary64.scale
  let n := num / den
  if 2 * (num % den) < den then [n, n + 1]
  else if den < 2 * (num % den) then [n + 1, n]
  else if n % 2 = 0 then [n, n + 1] else [n + 1, n]

/-- The coarsest grid, from `count` digits on, that has a point in the interval. -/
def coarsest (x : Float) (interval : Interval) (lead : Int) : Nat → Nat → Nat × Int
  | 0, _ => (0, 0)
  | fuel + 1, count =>
    let place := lead - count
    match (neighbours x place).find? (interval.holds · place) with
    | some n => (n, place)
    | none => coarsest x interval lead fuel (count + 1)

def dropZeros (digits : List Char) : List Char :=
  (digits.reverse.dropWhile (· == '0')).reverse

/-- Seventeen digits always identify a double. -/
def shortest (x : Float) : Digits :=
  let lead := leadingPlace (Binary64.magnitude x) Binary64.scale 640 (-330)
  let (n, place) := coarsest x (.around x) lead 17 1
  let ds := digits n
  { digits := dropZeros ds, point := ds.length + place }

end AggregateStage.Decimal
