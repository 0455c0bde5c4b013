import AggregateStage.Binary64
import AggregateStage.Decimal.Digits
import AggregateStage.Wire.Varint

/-! Fields of binary messages. A message is a sequence of fields, each under a key of its
number and wire type; a fault names the message fields it lies in, innermost first. -/
namespace AggregateStage.Wire

inductive WireType where
  | varint
  | fixed64
  | delimited
  | startGroup
  | endGroup
  | fixed32
  deriving DecidableEq, Repr

def WireType.number : WireType → Nat
  | .varint => 0
  | .fixed64 => 1
  | .delimited => 2
  | .startGroup => 3
  | .endGroup => 4
  | .fixed32 => 5

def WireType.ofNat? : Nat → Option WireType
  | 0 => some .varint
  | 1 => some .fixed64
  | 2 => some .delimited
  | 3 => some .startGroup
  | 4 => some .endGroup
  | 5 => some .fixed32
  | _ => none

def WireType.name : WireType → String
  | .varint => "Varint"
  | .fixed64 => "SixtyFourBit"
  | .delimited => "LengthDelimited"
  | .startGroup => "StartGroup"
  | .endGroup => "EndGroup"
  | .fixed32 => "ThirtyTwoBit"

inductive Cause where
  | invalidVarint
  | underflow
  | lengthExceeded
  | wrongType (found due : WireType)
  | unknownType (number : Nat)
  | zeroNumber
  | largeKey (key : Nat)
  | notUnicode
  | strayGroupEnd
  | tooDeep
  deriving DecidableEq, Repr

def Cause.message : Cause → String
  | .invalidVarint => "invalid varint"
  | .underflow => "buffer underflow"
  | .lengthExceeded => "delimited length exceeded"
  | .wrongType found due =>
    "invalid wire type: " ++ found.name ++ " (expected " ++ due.name ++ ")"
  | .unknownType number => "invalid wire type value: " ++ Decimal.integer number
  | .zeroNumber => "invalid tag value: 0"
  | .largeKey key => "invalid key value: " ++ Decimal.integer key
  | .notUnicode => "invalid string value: data is not UTF-8 encoded"
  | .strayGroupEnd => "unexpected end group tag"
  | .tooDeep => "recursion limit reached"

structure Fault where
  cause : Cause
  /-- Message and field names, innermost first. -/
  path : List (String × String)
  deriving DecidableEq, Repr

def Fault.message (fault : Fault) : String :=
  "failed to decode Protobuf message: " ++
    String.join (fault.path.map fun (message, field) => message ++ "." ++ field ++ ": ") ++
    fault.cause.message

def fail {α : Type} (cause : Cause) : Except Fault α := .error ⟨cause, []⟩

/-- Names the field that a fault lies in. -/
def under {α : Type} (message field : String) (read : Except Fault (α × Bytes)) :
    Except Fault (α × Bytes) :=
  match read with
  | .ok result => .ok result
  | .error fault => .error ⟨fault.cause, fault.path ++ [(message, field)]⟩

def varint (bytes : Bytes) : Except Fault (UInt64 × Bytes) :=
  match readVarint bytes with
  | some read => .ok read
  | none => fail .invalidVarint

/-- The number and the wire type of the next field. -/
def key (bytes : Bytes) : Except Fault ((Nat × WireType) × Bytes) := do
  let (key, rest) ← varint bytes
  let key := key.toNat
  if Nat.pow 2 32 ≤ key then fail (.largeKey key)
  else
    match WireType.ofNat? (key % 8) with
    | none => fail (.unknownType (key % 8))
    | some type => if key / 8 = 0 then fail .zeroNumber else .ok ((key / 8, type), rest)

def expect (due found : WireType) : Except Fault Unit :=
  if found = due then .ok () else fail (.wrongType found due)

/-- A length that the rest of the bytes covers. -/
def length (bytes : Bytes) : Except Fault (Nat × Bytes) := do
  let (count, rest) ← varint bytes
  if rest.length < count.toNat then fail .underflow else return (count.toNat, rest)

def skipBytes (count : Nat) (bytes : Bytes) : Except Fault Bytes :=
  if bytes.length < count then fail .underflow else .ok (bytes.drop count)

/-- Passes over the fields of a group up to its end; the bound is on their count. -/
def skipGroup (skip : Nat → WireType → Bytes → Except Fault Bytes) (number : Nat) :
    Nat → Bytes → Except Fault Bytes
  | 0, _ => fail .invalidVarint
  | bound + 1, bytes => do
    let ((inner, type), rest) ← key bytes
    if type = .endGroup then
      if inner = number then return rest else fail .strayGroupEnd
    else skipGroup skip number bound (← skip inner type rest)

/-- Passes over a field behind its key; groups may nest as deep as the depth allows. -/
def skipField : Nat → Nat → WireType → Bytes → Except Fault Bytes
  | 0, _, _, _ => fail .tooDeep
  | depth + 1, number, type, bytes =>
    match type with
    | .varint => (varint bytes).map Prod.snd
    | .fixed32 => skipBytes 4 bytes
    | .fixed64 => skipBytes 8 bytes
    | .delimited => do
      let (count, rest) ← length bytes
      skipBytes count rest
    | .startGroup => skipGroup (skipField depth) number (bytes.length + 1) bytes
    | .endGroup => fail .strayGroupEnd

/-- How a message takes a field behind its key: by number, wire type and remaining depth. -/
abbrev Fields (α : Type) := α → Nat → Nat → WireType → Bytes → Except Fault (α × Bytes)

/-- Reads fields until no more bytes than a limit are left; the bound is on their count. -/
def readFields {α : Type} (fields : Fields α) (depth limit : Nat) :
    Nat → α → Bytes → Except Fault (α × Bytes)
  | 0, value, bytes => .ok (value, bytes)
  | bound + 1, value, bytes =>
    if bytes.length ≤ limit then .ok (value, bytes)
    else do
      let ((number, type), rest) ← key bytes
      let (value, rest) ← fields value depth number type rest
      readFields fields depth limit bound value rest

/-- Reads the fields of a message behind its length. A last field may read beyond the end
of the message; that is found out afterwards. -/
def readBody {α : Type} (fields : Fields α) (depth : Nat) (value : α) (bytes : Bytes) :
    Except Fault (α × Bytes) := do
  match depth with
  | 0 => fail .tooDeep
  | depth + 1 =>
    let (count, rest) ← length bytes
    let limit := rest.length - count
    let (value, rest) ← readFields fields depth limit rest.length value rest
    if rest.length = limit then return (value, rest) else fail .lengthExceeded

def readMessage {α : Type} (fields : Fields α) (depth : Nat) (value : α) (type : WireType)
    (bytes : Bytes) : Except Fault (α × Bytes) := do
  expect .delimited type
  readBody fields depth value bytes

def readString (type : WireType) (bytes : Bytes) : Except Fault (String × Bytes) := do
  expect .delimited type
  let (count, rest) ← length bytes
  match String.fromUTF8? ⟨(rest.take count).toArray⟩ with
  | some s => return (s, rest.drop count)
  | none => fail .notUnicode

def readInt64 (type : WireType) (bytes : Bytes) : Except Fault (Int64 × Bytes) := do
  expect .varint type
  let (n, rest) ← varint bytes
  return (n.toInt64, rest)

def readBool (type : WireType) (bytes : Bytes) : Except Fault (Bool × Bytes) := do
  expect .varint type
  let (n, rest) ← varint bytes
  return (n != 0, rest)

/-- How deep messages and unknown groups may nest. -/
def depthLimit : Nat := 100

/-- Reads a whole message from bytes that hold nothing else. -/
def decode {α : Type} (fields : Fields α) (zero : α) (bytes : Bytes) : Except Fault α :=
  (readFields fields depthLimit 0 bytes.length zero bytes).map Prod.fst

/-! Writing. A field with its zero value is left out. -/

def encodeKey (number : Nat) (type : WireType) : Bytes :=
  encodeVarint (UInt64.ofNat (8 * number + type.number))

def encodeDelimited (number : Nat) (body : Bytes) : Bytes :=
  encodeKey number .delimited ++ encodeVarint (UInt64.ofNat body.length) ++ body

def encodeString (number : Nat) (s : String) : Bytes :=
  if s.isEmpty then [] else encodeDelimited number s.toUTF8.toList

def encodeInt64 (number : Nat) (n : Int64) : Bytes :=
  if n = 0 then [] else encodeKey number .varint ++ encodeVarint n.toUInt64

def encodeBool (number : Nat) (b : Bool) : Bytes :=
  if b then encodeKey number .varint ++ [1] else []

/-- The eight bytes of a double, the lowest first; no number is written with its sign set. -/
def doubleBytes (x : Float) : Bytes :=
  let bits := if Binary64.isNaN x then 0xFFF8000000000000 else x.toBits.toNat
  (List.range 8).map fun i => UInt8.ofNat (bits / Nat.pow 256 i)

def encodeDouble (number : Nat) (x : Float) : Bytes :=
  if x == 0 then [] else encodeKey number .fixed64 ++ doubleBytes x

end AggregateStage.Wire
