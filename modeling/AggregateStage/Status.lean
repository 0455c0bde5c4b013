import AggregateStage.Text.Quoted

/-! The status that a call or a message stream ends with. -/
namespace AggregateStage

inductive StatusCode where
  | ok
  | cancelled
  | unknown
  | invalidArgument
  | deadlineExceeded
  | notFound
  | alreadyExists
  | permissionDenied
  | resourceExhausted
  | failedPrecondition
  | aborted
  | outOfRange
  | unimplemented
  | internal
  | unavailable
  | dataLoss
  | unauthenticated
  deriving DecidableEq, Repr

namespace StatusCode

/-- The codes in the order of their numbers, with their names. -/
def names : List (StatusCode × String) := [
  (.ok, "Ok"), (.cancelled, "Cancelled"), (.unknown, "Unknown"),
  (.invalidArgument, "InvalidArgument"), (.deadlineExceeded, "DeadlineExceeded"),
  (.notFound, "NotFound"), (.alreadyExists, "AlreadyExists"),
  (.permissionDenied, "PermissionDenied"), (.resourceExhausted, "ResourceExhausted"),
  (.failedPrecondition, "FailedPrecondition"), (.aborted, "Aborted"),
  (.outOfRange, "OutOfRange"), (.unimplemented, "Unimplemented"), (.internal, "Internal"),
  (.unavailable, "Unavailable"), (.dataLoss, "DataLoss"), (.unauthenticated, "Unauthenticated")]

/-- A number that no code has stands for an unknown failure. -/
def ofInt (n : Int) : StatusCode :=
  if n < 0 then .unknown
  else match names[n.toNat]? with
    | some (code, _) => code
    | none => .unknown

def name (code : StatusCode) : String :=
  ((names.find? fun pair => pair.1 == code).map Prod.snd).getD ""

end StatusCode

structure Status where
  code : StatusCode
  message : String
  deriving DecidableEq, Repr

def Status.describe (s : Status) : String :=
  "status: " ++ s.code.name ++ ", message: " ++ Text.quoted s.message ++
    ", details: [], metadata: MetadataMap \x7b headers: \x7b\x7d \x7d"

end AggregateStage
