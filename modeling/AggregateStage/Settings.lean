import AggregateStage.CommandLine
import AggregateStage.Net.Address
import AggregateStage.Settings.Typed
import AggregateStage.Settings.Variable
import AggregateStage.Toml.Reader

/-! The settings of the program. They are laid over one another: the defaults, the
environment, a file, and last the command line. -/
namespace AggregateStage.Settings

mutual

def Value.ofNode : Toml.Node → Value
  | .text value => .text value
  | .integer value => .signed value
  | .real value => .real value
  | .boolean value => .boolean value
  | .date => .table []
  | .array items => .list (ofNodes items)
  | .braces _ entries => .table (ofEntries entries)
  | .table _ entries => .table (ofEntries entries)
  | .tables elements => .list (ofElements elements)

def ofNodes : List Toml.Node → List Value
  | [] => []
  | node :: rest => Value.ofNode node :: ofNodes rest

def ofEntries : List (String × Toml.Node) → Table
  | [] => []
  | (name, node) :: rest => (name, Value.ofNode node) :: ofEntries rest

def ofElements : List (List (String × Toml.Node)) → List Value
  | [] => []
  | entries :: rest => .table (ofEntries entries) :: ofElements rest

end

/-- Settings from the text of a file, if there is one, over those of the environment, over
the defaults. Only what comes out of that is checked. -/
def load (environment : List (String × String)) (file : Option String) : Except Fault Settings := do
  let given := overTable (ofEnvironment environment) default.toTable
  match file with
  | none => ofTable given
  | some text =>
    match Toml.parse? text with
    | some entries => ofTable (overTable (ofEntries entries) given)
    | none => .error .malformedFile

/-- Settings under what the command line gives. -/
def withArguments (s : Settings) (a : Arguments) : Settings where
  server := {
    host := a.host.getD s.server.host
    port := a.port.getD s.server.port
    reflection := s.server.reflection && !a.noReflection }
  broker := {
    enabled := s.broker.enabled && !a.noBroker
    address := a.broker.getD s.broker.address
    role := a.role.getD s.broker.role
    timeout := a.timeout.getD s.broker.timeout }

/-- A host that is no address. -/
structure BadHost where
  host : String
  deriving DecidableEq, Repr

def BadHost.message (e : BadHost) : String := "Invalid bind host: " ++ e.host

def BadHost.cause (_ : BadHost) : String := "invalid IP address syntax"

/-- Where the server is to listen. -/
def endpoint (s : Settings) : Except BadHost Net.Endpoint :=
  match Net.Address.parse? s.server.host with
  | some address => .ok ⟨address, s.server.port⟩
  | none => .error ⟨s.server.host⟩

end AggregateStage.Settings
