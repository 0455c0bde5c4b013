import AggregateStage.Decimal.Digits
import AggregateStage.Text.Hex

/-! Internet addresses and endpoints as text. -/
namespace AggregateStage.Net

inductive Address where
  | v4 (a b c d : UInt8)
  | v6 (groups : Vector UInt16 8)
  deriving DecidableEq, Repr

structure Endpoint where
  address : Address
  port : UInt16
  deriving DecidableEq, Repr

namespace Address

/-- A part of a dotted quad: no zero before another digit, below 256. -/
def readOctet (cs : List Char) : Option (UInt8 × List Char) :=
  let (ds, rest) := cs.span Decimal.isDigit
  let n := Decimal.ofDigits ds
  if ds.isEmpty || decide (3 < ds.length) || ds.head? == some '0' && decide (1 < ds.length) ||
      decide (255 < n) then none
  else some (UInt8.ofNat n, rest)

def readDot : List Char → Option (List Char)
  | '.' :: rest => some rest
  | _ => none

structure Quad where
  a : UInt8
  b : UInt8
  c : UInt8
  d : UInt8
  deriving DecidableEq, Repr

def readQuad (cs : List Char) : Option (Quad × List Char) := do
  let (a, cs) ← readOctet cs
  let (b, cs) ← readOctet (← readDot cs)
  let (c, cs) ← readOctet (← readDot cs)
  let (d, cs) ← readOctet (← readDot cs)
  return (⟨a, b, c, d⟩, cs)

def Quad.groups (q : Quad) : List UInt16 :=
  [q.a.toUInt16 * 256 + q.b.toUInt16, q.c.toUInt16 * 256 + q.d.toUInt16]

/-- One to four hexadecimal digits. -/
def readGroup (cs : List Char) : Option (UInt16 × List Char) :=
  let (ds, rest) := cs.span Text.isHex
  if ds.isEmpty || decide (4 < ds.length) then none
  else some (UInt16.ofNat (Text.ofHex ds), rest)

/-- The groups read up to a place, and whether the last two were a dotted quad. -/
structure Groups where
  groups : List UInt16
  quad : Bool
  rest : List Char

/-- Reads groups with colons between them, at most as many as there is room for; a dotted
quad takes the room of two and ends them. -/
def readGroups : Nat → Bool → List Char → Groups
  | 0, _, cs => ⟨[], false, cs⟩
  | room + 1, first, cs =>
    let body := if first then some cs else match cs with
      | ':' :: rest => some rest
      | _ => none
    let quad := if room = 0 then none else body.bind readQuad
    match quad, body.bind readGroup with
    | some (q, rest), _ => ⟨q.groups, true, rest⟩
    | none, some (group, rest) =>
      let more := readGroups room false rest
      ⟨group :: more.groups, more.quad, more.rest⟩
    | none, none => ⟨[], false, cs⟩

def ofGroups (groups : List UInt16) : Option Address :=
  if h : groups.length = 8 then some (.v6 ⟨groups.toArray, by simpa using h⟩) else none

/-- Reads eight groups, or fewer with one double colon that stands for at least one zero. -/
def readV6 (cs : List Char) : Option (Address × List Char) :=
  let head := readGroups 8 true cs
  if head.groups.length = 8 then (ofGroups head.groups).map (·, head.rest)
  else if head.quad then none
  else
    match head.rest with
    | ':' :: ':' :: rest =>
      let tail := readGroups (7 - head.groups.length) true rest
      let zeros := List.replicate (8 - head.groups.length - tail.groups.length) 0
      (ofGroups (head.groups ++ zeros ++ tail.groups)).map (·, tail.rest)
    | _ => none

def read (cs : List Char) : Option (Address × List Char) :=
  match readQuad cs with
  | some (q, rest) => some (.v4 q.a q.b q.c q.d, rest)
  | none => readV6 cs

def parse? (text : String) : Option Address :=
  match read text.toList with
  | some (address, []) => some address
  | _ => none

def quadText (parts : List Nat) : String :=
  ".".intercalate (parts.map fun n => String.ofList (Decimal.digits n))

/-- The two parts of a dotted quad that a group stands for. -/
def quadParts (group : UInt16) : List Nat := [group.toNat / 256, group.toNat % 256]

def groupText (group : UInt16) : String := String.ofList (Text.hexDigits group.toNat)

def colons (groups : List UInt16) : String := ":".intercalate (groups.map groupText)

/-- Start and length of the longest run of zeros, the first one of several. -/
def longestZeros (groups : List UInt16) : Nat × Nat :=
  (List.range groups.length).foldl (fun best start =>
    let count := ((groups.drop start).takeWhile (· == 0)).length
    if best.2 < count then (start, count) else best) (0, 0)

/-- The longest run of two or more zeros is left out. -/
def groupsText (groups : List UInt16) : String :=
  let (start, count) := longestZeros groups
  if 1 < count then colons (groups.take start) ++ "::" ++ colons (groups.drop (start + count))
  else colons groups

def toText : Address → String
  | .v4 a b c d => quadText [a.toNat, b.toNat, c.toNat, d.toNat]
  | .v6 groups =>
    match groups.toList with
    | [0, 0, 0, 0, 0, 0xFFFF, high, low] =>
      "::ffff:" ++ quadText (quadParts high ++ quadParts low)
    | groups => groupsText groups

end Address

namespace Endpoint

def toText (e : Endpoint) : String :=
  let port := Decimal.integer e.port.toNat
  match e.address with
  | .v4 _ _ _ _ => e.address.toText ++ ":" ++ port
  | .v6 _ => "[" ++ e.address.toText ++ "]:" ++ port

def readPort : List Char → Option UInt16
  | ':' :: ds =>
    let n := Decimal.ofDigits ds
    if ds.isEmpty || !ds.all Decimal.isDigit || decide (65535 < n) then none
    else some (UInt16.ofNat n)
  | _ => none

def parse? (text : String) : Option Endpoint := do
  match text.toList with
  | '[' :: cs =>
    match Address.readV6 cs with
    | some (address, ']' :: rest) => return ⟨address, ← readPort rest⟩
    | _ => none
  | cs =>
    let (q, rest) ← Address.readQuad cs
    return ⟨.v4 q.a q.b q.c q.d, ← readPort rest⟩

end Endpoint

end AggregateStage.Net
