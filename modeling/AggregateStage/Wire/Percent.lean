import AggregateStage.Decimal.Digits
import AggregateStage.Text.Hex
import AggregateStage.Status
import AggregateStage.Wire.Varint

/-! Status messages on their way through a header. The sender escapes what a header cannot
hold but no percent sign, so an escape that a message happens to contain is undone too. -/
namespace AggregateStage.Wire

/-- Undoes the escapes of two hexadecimal digits. -/
def unescape : List Char → Bytes
  | '%' :: a :: b :: rest =>
    match Text.hexValue a, Text.hexValue b with
    | some a, some b => UInt8.ofNat (16 * a + b) :: unescape rest
    | _, _ => 37 :: unescape (a :: b :: rest)
  | c :: rest => (String.singleton c).toUTF8.toList ++ unescape rest
  | [] => []

/-- How many bytes a character takes that begins with a byte, and the range that its second
byte has to be in. -/
def leadByte (byte : UInt8) : Option (Nat × UInt8 × UInt8) :=
  if byte < 0x80 then some (1, 0, 0)
  else if byte < 0xC2 then none
  else if byte < 0xE0 then some (2, 0x80, 0xBF)
  else if byte = 0xE0 then some (3, 0xA0, 0xBF)
  else if byte = 0xED then some (3, 0x80, 0x9F)
  else if byte < 0xF0 then some (3, 0x80, 0xBF)
  else if byte = 0xF0 then some (4, 0x90, 0xBF)
  else if byte < 0xF4 then some (4, 0x80, 0xBF)
  else if byte = 0xF4 then some (4, 0x80, 0x8F)
  else none

/-- How many of the bytes that should continue a character do. -/
def continuing (low high : UInt8) : Nat → Bytes → Nat
  | 0, _ => 0
  | _, [] => 0
  | count + 1, byte :: rest =>
    if low ≤ byte ∧ byte ≤ high then continuing 0x80 0xBF count rest + 1 else 0

/-- The first place where bytes are no text, with the count of the bytes at fault; no count
when the bytes end within a character. -/
def firstFault : Nat → Nat → Bytes → Option (Nat × Option Nat)
  | 0, _, _ => none
  | _, _, [] => none
  | bound + 1, index, byte :: rest =>
    match leadByte byte with
    | none => some (index, some 1)
    | some (size, low, high) =>
      let found := continuing low high (size - 1) rest
      if found = size - 1 then firstFault bound (index + size) (rest.drop (size - 1))
      else some (index, if found = rest.length then none else some (found + 1))

def faultText : Nat × Option Nat → String
  | (index, some count) => "invalid utf-8 sequence of " ++ Decimal.integer count ++
      " bytes from index " ++ Decimal.integer index
  | (index, none) => "incomplete utf-8 byte sequence from index " ++ Decimal.integer index

/-- The status as the other side of a connection sees it. -/
def received (status : Status) : Status :=
  let bytes := unescape status.message.toList
  match firstFault (bytes.length + 1) 0 bytes with
  | none => ⟨status.code, (String.fromUTF8? ⟨bytes.toArray⟩).getD ""⟩
  | some fault => ⟨.unknown, "Error deserializing status message header: " ++ faultText fault⟩

end AggregateStage.Wire
