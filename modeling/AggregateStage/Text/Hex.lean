/-! Hexadecimal digits. -/
namespace AggregateStage.Text

def hexValue (c : Char) : Option Nat :=
  if '0' ≤ c ∧ c ≤ '9' then some (c.toNat - '0'.toNat)
  else if 'a' ≤ c ∧ c ≤ 'f' then some (c.toNat - 'a'.toNat + 10)
  else if 'A' ≤ c ∧ c ≤ 'F' then some (c.toNat - 'A'.toNat + 10)
  else none

def isHex (c : Char) : Bool := (hexValue c).isSome

/-- The number that hexadecimal digits stand for; anything else counts as zero. -/
def ofHex (digits : List Char) : Nat :=
  digits.foldl (fun value c => 16 * value + (hexValue c).getD 0) 0

/-- Digits of a number, lower-case letters for those above nine. -/
def hexDigits (n : Nat) : List Char := Nat.toDigits 16 n

end AggregateStage.Text
