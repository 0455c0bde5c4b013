/-! Numbers of 64 bits in groups of seven, the lowest group first; the high bit of a byte
says that another follows. -/
namespace AggregateStage.Wire

abbrev Bytes := List UInt8

/-- The groups of a number, at most as many as given. -/
def groups : Nat → Nat → Bytes
  | 0, _ => []
  | count + 1, n =>
    if n < 128 then [UInt8.ofNat n] else UInt8.ofNat (n % 128 + 128) :: groups count (n / 128)

def encodeVarint (n : UInt64) : Bytes := groups 10 n.toNat

/-- Reads groups of the given weight; the tenth may only be zero or one. -/
def readGroups : Nat → Nat → Bytes → Option (Nat × Bytes)
  | 0, _, _ => none
  | _ + 1, _, [] => none
  | count + 1, weight, byte :: rest =>
    if byte < 128 then
      if count = 0 ∧ 2 ≤ byte then none else some (byte.toNat * weight, rest)
    else
      (readGroups count (weight * 128) rest).map fun (high, rest) =>
        ((byte.toNat - 128) * weight + high, rest)

def readVarint (bytes : Bytes) : Option (UInt64 × Bytes) :=
  (readGroups 10 1 bytes).map fun (n, rest) => (UInt64.ofNat n, rest)

end AggregateStage.Wire
