import AggregateStage.Message
import AggregateStage.Wire.Field

/-! The pipeline's messages as bytes. A field met twice takes its last value, and a
message field is merged. -/
namespace AggregateStage

open Wire

def ParsedEvent.fields : Fields ParsedEvent := fun e depth number type bytes =>
  match number with
  | 1 => under "ParsedEvent" "r#type" do
    let (s, rest) ← readString type bytes
    return ({ e with type := s }, rest)
  | 2 => under "ParsedEvent" "user" do
    let (s, rest) ← readString type bytes
    return ({ e with user := s }, rest)
  | 3 => under "ParsedEvent" "value" do
    let (n, rest) ← readInt64 type bytes
    return ({ e with value := n }, rest)
  | 4 => under "ParsedEvent" "timestamp" do
    let (n, rest) ← readInt64 type bytes
    return ({ e with timestamp := n }, rest)
  | 5 => under "ParsedEvent" "sequence" do
    let (n, rest) ← readInt64 type bytes
    return ({ e with sequence := n }, rest)
  | _ => (skipField depth number type bytes).map (e, ·)

/-- An entry of a string map: its key is field 1, its value field 2. -/
def entryFields : Fields (String × String) := fun entry depth number type bytes =>
  match number with
  | 1 => (readString type bytes).map fun (key, rest) => ((key, entry.2), rest)
  | 2 => (readString type bytes).map fun (value, rest) => ((entry.1, value), rest)
  | _ => (skipField depth number type bytes).map (entry, ·)

/-- Entries of the metadata are read whatever their wire type is. -/
def EnrichedEvent.fields : Fields EnrichedEvent := fun e depth number type bytes =>
  match number with
  | 1 => under "EnrichedEvent" "event" do
    let (event, rest) ← readMessage ParsedEvent.fields depth (e.event.getD .zero) type bytes
    return ({ e with event := some event }, rest)
  | 2 => under "EnrichedEvent" "metadata" do
    let (entry, rest) ← readBody entryFields depth ("", "") bytes
    return ({ e with metadata := e.metadata.filter (·.1 != entry.1) ++ [entry] }, rest)
  | 3 => under "EnrichedEvent" "passed_rules" do
    let (b, rest) ← readBool type bytes
    return ({ e with passed := b }, rest)
  | _ => (skipField depth number type bytes).map (e, ·)

def SingleRequest.fields : Fields SingleRequest := fun request depth number type bytes =>
  match number with
  | 1 => under "AggregateRequest" "event" do
    let (e, rest) ← readMessage EnrichedEvent.fields depth (request.getD .zero) type bytes
    return (some e, rest)
  | _ => (skipField depth number type bytes).map (request, ·)

def BatchRequest.fields : Fields BatchRequest := fun request depth number type bytes =>
  match number with
  | 1 => under "AggregateBatchRequest" "events" do
    let (e, rest) ← readMessage EnrichedEvent.fields depth .zero type bytes
    return (request ++ [e], rest)
  | _ => (skipField depth number type bytes).map (request, ·)

def SingleRequest.decode (bytes : Bytes) : Except Fault SingleRequest :=
  Wire.decode SingleRequest.fields none bytes

def BatchRequest.decode (bytes : Bytes) : Except Fault BatchRequest :=
  Wire.decode BatchRequest.fields [] bytes

def ParsedEvent.encode (e : ParsedEvent) : Bytes :=
  encodeString 1 e.type ++ encodeString 2 e.user ++ encodeInt64 3 e.value ++
    encodeInt64 4 e.timestamp ++ encodeInt64 5 e.sequence

def encodeEntry (entry : String × String) : Bytes :=
  encodeString 1 entry.1 ++ encodeString 2 entry.2

def EnrichedEvent.encode (e : EnrichedEvent) : Bytes :=
  (e.event.map fun event => encodeDelimited 1 event.encode).getD [] ++
    e.metadata.flatMap (fun entry => encodeDelimited 2 (encodeEntry entry)) ++
    encodeBool 3 e.passed

def SingleRequest.encode (request : SingleRequest) : Bytes :=
  (request.map fun e => encodeDelimited 1 e.encode).getD []

def BatchRequest.encode (request : BatchRequest) : Bytes :=
  request.flatMap fun e => encodeDelimited 1 e.encode

def Result.encode (r : Result) : Bytes :=
  encodeString 1 r.key ++ encodeInt64 2 r.count ++ encodeInt64 3 r.sum ++ encodeDouble 4 r.average

def SingleResponse.encode (r : Result) : Bytes := encodeDelimited 1 r.encode

def BatchResponse.encode (rs : BatchResponse) : Bytes :=
  rs.flatMap fun r => encodeDelimited 1 r.encode

end AggregateStage
