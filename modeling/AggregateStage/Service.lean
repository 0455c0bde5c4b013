import AggregateStage.Call.Run
import AggregateStage.Wire.Frame
import AggregateStage.Wire.Pipeline

/-! The aggregate service: its methods, and one exchange of a framed request stream for a
framed response. Exchanges share no state. -/
namespace AggregateStage

namespace Service

/-- The name under which the service is served and announced. -/
def name : String := "pipeline.v1.AggregateService"

/-- The label of the metrics that the service logs. -/
def metricsLabel : String := "aggregate-service"

/-- How many response messages a call may have queued unless configured otherwise. -/
def defaultBuffer : Nat := 128

inductive Method where
  | aggregate
  | aggregateBatch
  deriving DecidableEq, Repr

def Method.name : Method → String
  | .aggregate => "Aggregate"
  | .aggregateBatch => "AggregateBatch"

def Method.mode : Method → String
  | .aggregate => "incremental"
  | .aggregateBatch => "batch"

def Method.path (method : Method) : String := "/" ++ Service.name ++ "/" ++ method.name

/-- The method at a path; a query is not part of it. -/
def Method.ofPath? (path : String) : Option Method :=
  let path := String.ofList (path.toList.takeWhile fun c => c != '?' && c != '#')
  [Method.aggregate, .aggregateBatch].find? fun method => method.path == path

/-- The fields of the span that a call's log lines lie in. -/
def Method.span (method : Method) (peer : Option String) : List Log.Field := [
  ⟨"mode", .text method.mode⟩,
  ⟨"peer", .text (match peer with
    | some address => "Some(" ++ address ++ ")"
    | none => "None")⟩]

structure Request where
  path : String
  /-- The compression that the client announces. -/
  encoding : Option String
  body : List Wire.Chunk
  /-- The client leaves before the call begins to run. -/
  abandoned : Bool

/-- A finished exchange. -/
structure Reply where
  /-- The method that was called, if there was a call. -/
  method : Option Method
  status : Status
  messages : List Wire.Bytes
  results : List Result
  log : List Log.Line

def refusal (message : String) : Reply := ⟨none, ⟨.unimplemented, message⟩, [], [], []⟩

/-- The items of a request stream, those that are no message as the status they cause. -/
def arrivals {ρ : Type} (decode : Wire.Bytes → Except Wire.Fault ρ) (body : List Wire.Chunk) :
    List (Except Status ρ) :=
  (Wire.items body).map fun
    | .error status => .error status
    | .ok bytes =>
      match decode bytes with
      | .ok request => .ok request
      | .error fault => .error ⟨.internal, fault.message⟩

/-- A call over a request stream, run until it is closed. -/
def call {ρ σ : Type} (how : Ingestion ρ σ) (decode : Wire.Bytes → Except Wire.Fault ρ)
    (buffer : Nat) (reading : Duration) (request : Request) : Call ρ σ :=
  let items := (arrivals decode request.body).map Call.Incident.arrival
  let incidents := if request.abandoned then .leave :: items else items
  let call := Call.run how (Call.capacity buffer) reading metricsLabel incidents
  call.execute how (Call.capacity buffer) [.close]

def endStatus : Option Call.Outcome → Status
  | some (.receiveFailed status) => status
  | _ => ⟨.ok, ""⟩

def reply {ρ σ : Type} (method : Method) (encode : σ → Wire.Bytes) (results : σ → List Result)
    (call : Call ρ σ) : Reply where
  method := some method
  status := endStatus call.outcome?
  messages := call.responses.map encode
  results := call.responses.flatMap results
  log := call.log

/-- Answers a request: an unknown method or a compressed stream is refused unread. -/
def answer (buffer : Nat) (reading : Duration) (request : Request) : Reply :=
  match Method.ofPath? request.path, request.encoding.filter (· != "identity") with
  | none, _ => refusal ""
  | some _, some encoding =>
    refusal ("Content is compressed with `" ++ encoding ++ "` which isn't supported")
  | some .aggregate, none =>
    reply .aggregate SingleResponse.encode (fun r => [r])
      (call .single SingleRequest.decode buffer reading request)
  | some .aggregateBatch, none =>
    reply .aggregateBatch BatchResponse.encode id
      (call .batch BatchRequest.decode buffer reading request)

end Service

end AggregateStage
