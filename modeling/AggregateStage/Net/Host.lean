import AggregateStage.Net.Address

/-! What the machine that a server runs on has to offer it. -/
namespace AggregateStage.Net

/-- An address that every machine has: its loopback ones, and the one that stands for all. -/
def Address.isCommon : Address → Bool
  | .v4 a b c d => a == 127 || a == 0 && b == 0 && c == 0 && d == 0
  | .v6 groups =>
    match groups.toList with
    | [0, 0, 0, 0, 0, 0, 0, low] => decide (low ≤ 1)
    | _ => false

structure Host where
  owns : Address → Bool
  /-- The port that is given when any will do. -/
  freePort : UInt16
  /-- Where others listen. -/
  taken : List Endpoint

/-- A listener at an endpoint, unless the machine lacks the address or the port is taken,
by others or by listeners of one's own. -/
def Host.bind (host : Host) (own : List Endpoint) (e : Endpoint) : Except String Endpoint :=
  if !host.owns e.address then .error "Cannot assign requested address (os error 99)"
  else if e.port = 0 then .ok { e with port := host.freePort }
  else if e ∈ own ++ host.taken then .error "Address already in use (os error 98)"
  else .ok e

end AggregateStage.Net
