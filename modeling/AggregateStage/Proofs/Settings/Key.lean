import AggregateStage.Settings

/-! The settings one by one: where each of them stands in a table, and what a table gives for
it. Names that are no setting's are passed over. -/
namespace AggregateStage.Settings

inductive Key where
  | host
  | port
  | reflection
  | enabled
  | address
  | role
  | timeout
  deriving DecidableEq, Repr

namespace Key

/-- The name of the table that holds a setting. -/
def table : Key → String
  | .host | .port | .reflection => "server"
  | .enabled | .address | .role | .timeout => "broker"

def name : Key → String
  | .host => "host"
  | .port => "port"
  | .reflection => "reflection"
  | .enabled => "enabled"
  | .address => "address"
  | .role => "role"
  | .timeout => "connect_timeout_secs"

/-- What is due in the place of the table. -/
def due : Key → Due
  | .host | .port | .reflection => .server
  | .enabled | .address | .role | .timeout => .broker

def path (k : Key) : List String := [k.table, k.name]

/-- What a setting is. -/
abbrev Content : Key → Type
  | .host | .address | .role => String
  | .port => UInt16
  | .reflection | .enabled => Bool
  | .timeout => UInt64

/-- Reads a value as that of a setting. -/
def read (k : Key) (value : Value) : Except Fault k.Content :=
  match k with
  | .host => asText Key.host.path value
  | .port => asPort Key.port.path value
  | .reflection => asBoolean Key.reflection.path value
  | .enabled => asBoolean Key.enabled.path value
  | .address => asText Key.address.path value
  | .role => asText Key.role.path value
  | .timeout => asSeconds Key.timeout.path value

end Key

def get (s : Settings) : (k : Key) → k.Content
  | .host => s.server.host
  | .port => s.server.port
  | .reflection => s.server.reflection
  | .enabled => s.broker.enabled
  | .address => s.broker.address
  | .role => s.broker.role
  | .timeout => s.broker.timeout

/-- The settings of given contents. -/
def ofContents (content : (k : Key) → k.Content) : Settings where
  server := ⟨content .host, content .port, content .reflection⟩
  broker := ⟨content .enabled, content .address, content .role, content .timeout⟩

theorem get_ofContents (content : (k : Key) → k.Content) (k : Key) :
    (ofContents content).get k = content k := by
  cases k <;> rfl

theorem ofContents_get (s : Settings) : ofContents s.get = s := rfl

theorem ext_get {s other : Settings} (same : ∀ k, s.get k = other.get k) : s = other := by
  rw [← ofContents_get s, funext same, ofContents_get]

/-- Reads a value that need not be there. -/
def sought {α : Type} (read : Value → Except Fault α) : Option Value → Except Fault (Option α)
  | some value => (read value).map some
  | none => .ok none

theorem given_eq {α : Type} (read : List String → Value → Except Fault α) (path : List String)
    (value : Option Value) (default : α) :
    given read path value default = (sought (read path) value).map (·.getD default) := by
  cases value with
  | none => rfl
  | some value => cases found : read path value <;> simp [given, sought, found, Except.map]

namespace Table

/-- What a table gives for a setting, which may be nothing. Settings stand under names only,
not in a list. -/
def gives (t : Table) (k : Key) : Except Fault (Option k.Content) :=
  match t.find? k.table with
  | some (.table entries) => sought k.read (Table.find? entries k.name)
  | some other => .error (.wrongType [k.table] other k.due)
  | none => .ok none

def given? (t : Table) (k : Key) : Option k.Content := (t.gives k).toOption.join

/-- For each setting, a table gives nothing or a value of the setting's type. -/
def Fits (t : Table) : Prop := ∀ k, (t.gives k).isOk

variable {t entries : Table} {k : Key}

theorem given?_of_gives {content : Option k.Content} (gives : t.gives k = .ok content) :
    t.given? k = content := by
  rw [given?, gives]
  rfl

theorem fits_of_gives {content : (k : Key) → Option k.Content}
    (gives : ∀ k, t.gives k = .ok (content k)) : t.Fits := fun k => by
  rw [gives k]
  rfl

theorem Fits.gives (fits : t.Fits) (k : Key) : t.gives k = .ok (t.given? k) := by
  have ok := fits k
  cases found : t.gives k with
  | ok content => rw [given?_of_gives found]
  | error fault => simp [found, Except.isOk, Except.toBool] at ok

theorem gives_of_table (found : t.find? k.table = some (.table entries)) :
    t.gives k = sought k.read (Table.find? entries k.name) := by
  rw [gives, found]

theorem gives_of_absent (absent : t.find? k.table = none) : t.gives k = .ok none := by
  rw [gives, absent]

/-- Where settings are held, there is a table or nothing. -/
theorem Fits.table_cases (fits : t.Fits) (k : Key) :
    t.find? k.table = none ∨ ∃ entries, t.find? k.table = some (.table entries) := by
  have ok := fits k
  cases found : t.find? k.table with
  | none => exact .inl rfl
  | some value =>
    cases value with
    | table entries => exact .inr ⟨entries, rfl⟩
    | _ => simp [Table.gives, found, Except.isOk, Except.toBool] at ok

theorem Fits.sought (fits : t.Fits) (k : Key) (found : t.find? k.table = some (.table entries)) :
    Settings.sought k.read (Table.find? entries k.name) = .ok (t.given? k) :=
  (gives_of_table found).symm.trans (fits.gives k)

theorem given?_of_absent (absent : t.find? k.table = none) : t.given? k = none :=
  given?_of_gives (gives_of_absent absent)

/-- The settings that a table gives, with the defaults for the rest. -/
def settings (t : Table) : Settings := ofContents fun k => (t.given? k).getD (default.get k)

theorem get_settings (t : Table) (k : Key) :
    t.settings.get k = (t.given? k).getD (default.get k) := get_ofContents _ k

theorem settings_of_absent (k : Key) (absent : t.find? k.table = none) :
    t.settings.get k = default.get k := by
  rw [get_settings, given?_of_absent absent, Option.getD_none]

theorem Fits.given (fits : t.Fits) (k : Key) (found : t.find? k.table = some (.table entries)) :
    Settings.given (fun _ => k.read) k.path (Table.find? entries k.name) (default.get k) =
      .ok (t.settings.get k) := by
  rw [given_eq, fits.sought k found, get_settings]
  rfl

theorem Fits.server (fits : t.Fits) :
    (t.lookup "server").elim (.ok .default) Server.ofValue = .ok t.settings.server := by
  obtain absent | ⟨entries, found⟩ := fits.table_cases .host
  · have same : t.settings.server = ⟨default.get .host, default.get .port,
        default.get .reflection⟩ := by
      rw [← settings_of_absent .host absent, ← settings_of_absent .port absent,
        ← settings_of_absent .reflection absent]
      rfl
    change t.lookup "server" = none at absent
    rw [absent, same]
    rfl
  · have host : Settings.given asText ["server", "host"] (entries.lookup "host")
      Server.default.host = .ok t.settings.server.host := fits.given .host found
    have port : Settings.given asPort ["server", "port"] (entries.lookup "port")
      Server.default.port = .ok t.settings.server.port := fits.given .port found
    have reflection : Settings.given asBoolean ["server", "reflection"]
      (entries.lookup "reflection") Server.default.reflection =
        .ok t.settings.server.reflection := fits.given .reflection found
    change t.lookup "server" = some (.table entries) at found
    rw [found]
    simp only [Option.elim, Server.ofValue, host, port, reflection]
    rfl

theorem Fits.broker (fits : t.Fits) :
    (t.lookup "broker").elim (.ok .default) Broker.ofValue = .ok t.settings.broker := by
  obtain absent | ⟨entries, found⟩ := fits.table_cases .enabled
  · have same : t.settings.broker = ⟨default.get .enabled, default.get .address,
        default.get .role, default.get .timeout⟩ := by
      rw [← settings_of_absent .enabled absent, ← settings_of_absent .address absent,
        ← settings_of_absent .role absent, ← settings_of_absent .timeout absent]
      rfl
    change t.lookup "broker" = none at absent
    rw [absent, same]
    rfl
  · have address : Settings.given asText ["broker", "address"] (entries.lookup "address")
      Broker.default.address = .ok t.settings.broker.address := fits.given .address found
    have timeout : Settings.given asSeconds ["broker", "connect_timeout_secs"]
      (entries.lookup "connect_timeout_secs") Broker.default.timeout =
        .ok t.settings.broker.timeout := fits.given .timeout found
    have enabled : Settings.given asBoolean ["broker", "enabled"] (entries.lookup "enabled")
      Broker.default.enabled = .ok t.settings.broker.enabled := fits.given .enabled found
    have role : Settings.given asText ["broker", "role"] (entries.lookup "role")
      Broker.default.role = .ok t.settings.broker.role := fits.given .role found
    change t.lookup "broker" = some (.table entries) at found
    rw [found]
    simp only [Option.elim, Broker.ofValue, address, timeout, enabled, role]
    rfl

theorem ofTable_eq (t : Table) : ofTable t = (do
    let broker ← (t.lookup "broker").elim (.ok .default) Broker.ofValue
    let server ← (t.lookup "server").elim (.ok .default) Server.ofValue
    return ⟨server, broker⟩) := by
  unfold ofTable
  cases t.lookup "broker" <;> cases t.lookup "server" <;> rfl

/-- A table that fits is read, and what it does not give is the default. -/
theorem ofTable_of_fits (fits : t.Fits) : ofTable t = .ok t.settings := by
  rw [ofTable_eq, fits.broker, fits.server]
  rfl

end Table

theorem asPort_toNat (path : List String) (port : UInt16) :
    asPort path (.unsigned port.toNat) = .ok port := by
  have inRange : port.toNat < Nat.pow 2 16 := port.toNat_lt
  simp [asPort, asNatural, inRange, Except.map]

theorem asSeconds_toNat (path : List String) (seconds : UInt64) :
    asSeconds path (.unsigned seconds.toNat) = .ok seconds := by
  have inRange : seconds.toNat < Nat.pow 2 64 := seconds.toNat_lt
  simp [asSeconds, asNatural, inRange, Except.map]

/-- The table of settings gives each of them. -/
theorem gives_toTable (s : Settings) (k : Key) : s.toTable.gives k = .ok (some (s.get k)) := by
  cases k with
  | port => exact congrArg (Except.map some) (asPort_toNat Key.port.path s.server.port)
  | timeout => exact congrArg (Except.map some) (asSeconds_toNat Key.timeout.path s.broker.timeout)
  | _ => rfl

end AggregateStage.Settings
