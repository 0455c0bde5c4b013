import AggregateStage.Decimal.Digits
import AggregateStage.Status
import AggregateStage.Wire.Varint

/-! Messages framed in a byte stream: a flag byte, a length of four bytes, the highest
first, and the message. -/
namespace AggregateStage.Wire

/-- The largest message that is taken. -/
def sizeLimit : Nat := 4194304

/-- A part of a stream: bytes, or the failure that ends it. -/
inductive Chunk where
  | data (bytes : Bytes)
  | failure (status : Status)
  deriving DecidableEq, Repr

/-- The bytes up to the end of a stream, and the failure that ended it. -/
def gathered : List Chunk → Bytes × Option Status
  | [] => ([], none)
  | .failure status :: _ => ([], some status)
  | .data bytes :: rest =>
    let (more, failure) := gathered rest
    (bytes ++ more, failure)

/-- How the framed part of a stream ends. -/
inductive Ending where
  | clean
  /-- Bytes are left that are no whole frame. -/
  | incomplete
  | broken (status : Status)
  deriving DecidableEq, Repr

def badFlag (flag : UInt8) : Status :=
  if flag = 1 then ⟨.internal,
    "protocol error: received message with compressed-flag but no grpc-encoding was specified"⟩
  else ⟨.internal, "protocol error: received message with invalid compression flag: " ++
    Decimal.integer flag.toNat ++ " (valid flags are 0 and 1), while sending request"⟩

def tooLong (count : Nat) : Status := ⟨.outOfRange,
  "Error, decoded message length too large: found " ++ Decimal.integer count ++
    " bytes, the limit is: " ++ Decimal.integer sizeLimit ++ " bytes"⟩

def bigEndian (bytes : List UInt8) : Nat := bytes.foldl (fun n byte => 256 * n + byte.toNat) 0

/-- Cuts bytes into messages; the bound is on their count. A header at the very end is not
seen as unread bytes. -/
def frames : Nat → Bytes → List Bytes × Ending
  | 0, _ => ([], .incomplete)
  | bound + 1, bytes =>
    match bytes with
    | [] => ([], .clean)
    | flag :: a :: b :: c :: d :: rest =>
      let count := bigEndian [a, b, c, d]
      if flag ≠ 0 then ([], .broken (badFlag flag))
      else if sizeLimit < count then ([], .broken (tooLong count))
      else if rest.length < count then ([], if rest.isEmpty then .clean else .incomplete)
      else
        let (messages, ending) := frames bound (rest.drop count)
        (rest.take count :: messages, ending)
    | _ => ([], .incomplete)

def unexpectedEnd : Status := ⟨.internal, "Unexpected EOF decoding stream."⟩

/-- What a failure of the stream hands over; a cancelled stream just ends. -/
def failureItem {α : Type} (status : Status) : List (Except Status α) :=
  if status.code = .cancelled then [] else [.error status]

/-- What a stream hands over: its messages, then the fault or failure that it ends with. -/
def items (stream : List Chunk) : List (Except Status Bytes) :=
  let (bytes, failure) := gathered stream
  let (messages, ending) := frames (bytes.length + 1) bytes
  messages.map Except.ok ++
    match ending, failure with
    | .broken status, _ => [.error status]
    | _, some status => failureItem status
    | .incomplete, none => [.error unexpectedEnd]
    | .clean, none => []

def frame (message : Bytes) : Bytes :=
  0 :: ((List.range 4).map fun i => UInt8.ofNat (message.length / Nat.pow 256 (3 - i))) ++ message

end AggregateStage.Wire
