import AggregateStage.Decimal.Digits

/-! Durations of whole seconds and nanoseconds. Addition carries and fails beyond the
range; it never wraps. -/
namespace AggregateStage

/-- Durations have fewer seconds than this. -/
def Duration.secondsLimit : Nat := Nat.pow 2 64

def Duration.nanosPerSecond : Nat := 1000000000

structure Duration where
  seconds : Nat
  nanos : Nat
  seconds_lt : seconds < Duration.secondsLimit := by decide
  nanos_lt : nanos < Duration.nanosPerSecond := by decide
  deriving DecidableEq, Repr

namespace Duration

def zero : Duration where
  seconds := 0
  nanos := 0

def toNanos (d : Duration) : Nat := d.seconds * nanosPerSecond + d.nanos

def isZero (d : Duration) : Bool := d.seconds == 0 && d.nanos == 0

/-- Nanoseconds beyond a second are carried into the seconds. -/
def ofParts? (seconds nanos : Nat) : Option Duration :=
  let whole := seconds + nanos / nanosPerSecond
  if h : whole < secondsLimit then
    some ⟨whole, nanos % nanosPerSecond, h, Nat.mod_lt _ (by decide)⟩
  else none

def add? (a b : Duration) : Option Duration := ofParts? (a.seconds + b.seconds) (a.nanos + b.nanos)

/-- Seconds as a double; both parts are rounded before they are added. -/
def toFloat (d : Duration) : Float :=
  (UInt64.ofNat d.seconds).toFloat + (UInt64.ofNat d.nanos).toFloat / 1e9

end Duration

end AggregateStage
