import AggregateStage.Decimal.Notation
import AggregateStage.Settings.Value
import AggregateStage.Text.Quoted

/-! Settings with their types, and the check of given values against them. The first value
that does not fit, in the order of the names, is the fault. -/
namespace AggregateStage

namespace Settings

/-- Where the server listens and what it serves. -/
structure Server where
  host : String
  port : UInt16
  /-- Whether the service describes itself to clients. -/
  reflection : Bool
  deriving DecidableEq, Repr

/-- The broker that the service is announced to. -/
structure Broker where
  enabled : Bool
  address : String
  role : String
  /-- Seconds for connecting and for each call. -/
  timeout : UInt64
  deriving DecidableEq, Repr

end Settings

structure Settings where
  server : Settings.Server
  broker : Settings.Broker
  deriving DecidableEq, Repr

namespace Settings

def Server.default : Server := ⟨"127.0.0.1", 6004, true⟩

def Broker.default : Broker := ⟨true, "127.0.0.1:50051", "default", 5⟩

def default : Settings := ⟨.default, .default⟩

def Server.toTable (s : Server) : Table := [("host", .text s.host),
  ("port", .unsigned s.port.toNat), ("reflection", .boolean s.reflection)]

def Broker.toTable (b : Broker) : Table := [("enabled", .boolean b.enabled),
  ("address", .text b.address), ("role", .text b.role),
  ("connect_timeout_secs", .unsigned b.timeout.toNat)]

def toTable (s : Settings) : Table :=
  [("server", .table s.server.toTable), ("broker", .table s.broker.toTable)]

/-- What is due in the place of a value. -/
inductive Due where
  | text
  | boolean
  | word16
  | word64
  | server
  | broker
  deriving DecidableEq, Repr

def Due.words : Due → String
  | .text => "a string"
  | .boolean => "a boolean"
  | .word16 => "u16"
  | .word64 => "u64"
  | .server => "struct ServerConfig"
  | .broker => "struct BrokerConfig"

def Value.words : Value → String
  | .boolean value => if value then "bool true" else "bool false"
  | .unsigned value => "unsigned int `" ++ Decimal.integer value ++ "`"
  | .signed value => "signed int `" ++ Decimal.integer value ++ "`"
  | .real value => "float `" ++ Decimal.Notation.setting.text value ++ "`"
  | .text value => "string " ++ Text.quoted value
  | .list _ => "sequence"
  | .table _ => "map"

/-- Why settings cannot be had, with the place of the value at fault. -/
inductive Fault where
  | wrongType (path : List String) (found : Value) (due : Due)
  | outOfRange (path : List String) (found : Value) (due : Due)
  | malformedFile
  deriving Repr, BEq

def Fault.path : Fault → List String
  | .wrongType path _ _ | .outOfRange path _ _ => path
  | .malformedFile => []

/-- What is wrong with the value, as far as that is told. -/
def Fault.detail? : Fault → Option String
  | .wrongType _ found due =>
    some ("invalid type: found " ++ found.words ++ ", expected " ++ due.words)
  | .outOfRange _ found due =>
    some ("invalid value " ++ found.words ++ ", expected " ++ due.words)
  | .malformedFile => none

def Fault.message : String := "Failed to load configuration"

def asText (path : List String) : Value → Except Fault String
  | .text value => .ok value
  | found => .error (.wrongType path found .text)

def asBoolean (path : List String) : Value → Except Fault Bool
  | .boolean value => .ok value
  | found => .error (.wrongType path found .boolean)

/-- A whole number below a limit; its sign does not matter when it is in range. -/
def asNatural (limit : Nat) (due : Due) (path : List String) (value : Value) : Except Fault Nat :=
  match value with
  | .unsigned n => if n < limit then .ok n else .error (.outOfRange path value due)
  | .signed n =>
    if 0 ≤ n ∧ n < limit then .ok n.toNat else .error (.outOfRange path value due)
  | found => .error (.wrongType path found due)

def asPort (path : List String) (value : Value) : Except Fault UInt16 :=
  (asNatural (Nat.pow 2 16) .word16 path value).map UInt16.ofNat

def asSeconds (path : List String) (value : Value) : Except Fault UInt64 :=
  (asNatural (Nat.pow 2 64) .word64 path value).map UInt64.ofNat

/-- A setting that has its default when it is not given. -/
def given {α : Type} (read : List String → Value → Except Fault α) (path : List String)
    (value : Option Value) (default : α) : Except Fault α :=
  match value with
  | some value => read path value
  | none => .ok default

/-- A section is a table of its settings, or a list of them in a fixed order. -/
def Server.ofValue (value : Value) : Except Fault Server :=
  match value with
  | .table t => do
    let host ← given asText ["server", "host"] (t.lookup "host") Server.default.host
    let port ← given asPort ["server", "port"] (t.lookup "port") Server.default.port
    let reflection ← given asBoolean ["server", "reflection"] (t.lookup "reflection")
      Server.default.reflection
    return ⟨host, port, reflection⟩
  | .list items => do
    let host ← given asText ["server", "0"] items[0]? Server.default.host
    let port ← given asPort ["server", "1"] items[1]? Server.default.port
    let reflection ← given asBoolean ["server", "2"] items[2]? Server.default.reflection
    return ⟨host, port, reflection⟩
  | found => .error (.wrongType ["server"] found .server)

def Broker.ofValue (value : Value) : Except Fault Broker :=
  match value with
  | .table t => do
    let address ← given asText ["broker", "address"] (t.lookup "address") Broker.default.address
    let timeout ← given asSeconds ["broker", "connect_timeout_secs"]
      (t.lookup "connect_timeout_secs") Broker.default.timeout
    let enabled ← given asBoolean ["broker", "enabled"] (t.lookup "enabled") Broker.default.enabled
    let role ← given asText ["broker", "role"] (t.lookup "role") Broker.default.role
    return ⟨enabled, address, role, timeout⟩
  | .list items => do
    let enabled ← given asBoolean ["broker", "0"] items[0]? Broker.default.enabled
    let address ← given asText ["broker", "1"] items[1]? Broker.default.address
    let role ← given asText ["broker", "2"] items[2]? Broker.default.role
    let timeout ← given asSeconds ["broker", "3"] items[3]? Broker.default.timeout
    return ⟨enabled, address, role, timeout⟩
  | found => .error (.wrongType ["broker"] found .broker)

/-- The broker's settings are looked at before the server's. -/
def ofTable (t : Table) : Except Fault Settings := do
  let broker ← match t.lookup "broker" with
    | some value => Broker.ofValue value
    | none => .ok .default
  let server ← match t.lookup "server" with
    | some value => Server.ofValue value
    | none => .ok .default
  return ⟨server, broker⟩

end Settings

end AggregateStage
