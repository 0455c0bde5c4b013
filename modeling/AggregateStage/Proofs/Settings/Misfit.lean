import AggregateStage.Proofs.Settings.Layers

/-! Tables in which a single setting's place holds a value of the wrong type. They stay so
when they are laid over settings that fit, and under ones that give nothing for the place. -/
namespace AggregateStage.Settings

variable {upper lower t entries : Table} {k other : Key} {v : Value}

namespace Table

/-- Where settings are held, there is a table or nothing. -/
def Sectioned (t : Table) : Prop := ∀ k : Key,
  t.find? k.table = none ∨ ∃ entries, t.find? k.table = some (.table entries)

/-- The value in the place of a setting. -/
def at? (t : Table) (k : Key) : Option Value :=
  match t.find? k.table with
  | some (.table entries) => Table.find? entries k.name
  | _ => none

theorem at?_of_table (found : t.find? k.table = some (.table entries)) :
    t.at? k = Table.find? entries k.name := by
  rw [at?, found]

theorem at?_of_absent (absent : t.find? k.table = none) : t.at? k = none := by
  rw [at?, absent]

theorem Fits.sectioned (fits : t.Fits) : t.Sectioned := fits.table_cases

theorem Sectioned.gives_eq (sections : t.Sectioned) (k : Key) :
    t.gives k = Settings.sought k.read (t.at? k) := by
  obtain absent | ⟨entries, found⟩ := sections k
  · rw [gives_of_absent absent, at?_of_absent absent]
    rfl
  · rw [gives_of_table found, at?_of_table found]

/-- Laid over one another, tables have the upper value laid over the lower one in each place. -/
theorem at?_over (distinct : upper.Distinct) (high : upper.Sectioned) (low : lower.Sectioned)
    (k : Key) : (overTable upper lower).at? k = Value.above (upper.at? k) (lower.at? k) := by
  have found := find?_over distinct.names lower k.table
  obtain absent | ⟨entries, upperTable⟩ := high k
  · rw [absent, Value.above] at found
    rw [at?_of_absent absent, Value.above, at?, at?, found]
  · obtain absent | ⟨under, lowerTable⟩ := low k
    · rw [upperTable, absent, Value.above] at found
      rw [at?_of_table found, at?_of_table upperTable, at?_of_absent absent]
      cases Table.find? entries k.name <;> rfl
    · have names := (distinct.find? upperTable entries rfl).names
      rw [upperTable, lowerTable, Value.above, Value.over] at found
      rw [at?_of_table found, at?_of_table upperTable, at?_of_table lowerTable,
        find?_over names under k.name]

theorem sectioned_over (distinct : upper.Distinct) (high : upper.Sectioned)
    (low : lower.Sectioned) : (overTable upper lower).Sectioned := by
  intro k
  have found := find?_over distinct.names lower k.table
  obtain absent | ⟨entries, upperTable⟩ := high k
  · rw [absent, Value.above] at found
    rw [found]
    exact low k
  · obtain absent | ⟨under, lowerTable⟩ := low k
    · rw [upperTable, absent, Value.above] at found
      exact .inr ⟨entries, found⟩
    · rw [upperTable, lowerTable, Value.above, Value.over] at found
      exact .inr ⟨_, found⟩

/-- All settings but one are given nothing or a value of their type. -/
structure Misfits (t : Table) (k : Key) (v : Value) : Prop where
  sections : t.Sectioned
  place : t.at? k = some v
  others : ∀ other ≠ k, (t.gives other).isOk

theorem isOk_over (distinct : upper.Distinct) (high : upper.Sectioned) (low : lower.Sectioned)
    (first : (upper.gives k).isOk) (second : (lower.gives k).isOk) :
    ((overTable upper lower).gives k).isOk := by
  rw [high.gives_eq] at first
  rw [low.gives_eq] at second
  rw [(sectioned_over distinct high low).gives_eq, at?_over distinct high low]
  cases above : Settings.sought k.read (upper.at? k) with
  | error => simp [above, Except.isOk, Except.toBool] at first
  | ok content =>
    cases below : Settings.sought k.read (lower.at? k) with
    | error => simp [below, Except.isOk, Except.toBool] at second
    | ok under =>
      rw [sought_above above below]
      rfl

/-- What reads as a setting is replaced by whatever is laid over it. -/
theorem over_of_isOk {under : Value} (reads : (k.read under).isOk) (v : Value) :
    v.over under = v := by
  obtain ⟨entries, rest, -, rfl, -⟩ | same := v.over_cases under
  · exact absurd reads (k.read_table rest)
  · exact same

theorem Misfits.over_fits (distinct : upper.Distinct) (high : upper.Misfits k v)
    (low : lower.Fits) : (overTable upper lower).Misfits k v where
  sections := sectioned_over distinct high.sections low.sectioned
  place := by
    rw [at?_over distinct high.sections low.sectioned, high.place]
    cases below : lower.at? k with
    | none => rfl
    | some under =>
      have reads := low k
      rw [low.sectioned.gives_eq, below] at reads
      refine congrArg some (over_of_isOk (k := k) ?_ v)
      cases read : k.read under with
      | ok => rfl
      | error => simp [Settings.sought, read, Except.map, Except.isOk, Except.toBool] at reads
  others other different :=
    isOk_over distinct high.sections low.sectioned (high.others other different) (low other)

theorem Misfits.under_fits (distinct : upper.Distinct) (high : upper.Fits)
    (nothing : upper.given? k = none) (low : lower.Misfits k v) :
    (overTable upper lower).Misfits k v where
  sections := sectioned_over distinct high.sectioned low.sections
  place := by
    have absent : upper.at? k = none := by
      have gives := high.gives k
      rw [high.sectioned.gives_eq, nothing] at gives
      cases above : upper.at? k with
      | none => rfl
      | some v =>
        rw [above, Settings.sought] at gives
        cases read : k.read v <;> simp [read, Except.map] at gives
    rw [at?_over distinct high.sectioned low.sections, absent, low.place, Value.above]
  others other different :=
    isOk_over distinct high.sectioned low.sections (high other) (low.others other different)

end Table

/-- A variable at the place of a setting leaves every other one alone. -/
theorem variable_misfits {name text : String} (place : variablePath? name = some k.path) :
    (variableTable (name, text)).Misfits k (Literal.value text) := by
  have single : variableTable (name, text) =
      [(k.table, .table [(k.name, Literal.value text)])] := by
    simp only [variableTable, place]
    rfl
  have found : (variableTable (name, text)).find? k.table =
      some (.table [(k.name, Literal.value text)]) := by
    rw [single, Table.find?_cons, if_pos rfl]
  refine ⟨fun other => ?_, ?_, fun other different => ?_⟩
  · rw [single, Table.find?_cons]
    split
    · exact .inr ⟨_, rfl⟩
    · exact .inl rfl
  · rw [Table.at?_of_table found, Table.find?_cons, if_pos rfl]
  · rw [gives_variable_apart text place (Key.not_prefix different.symm) (Key.not_prefix different)]
    rfl

theorem fits_ofEnvironment {environment : List (String × String)}
    (fits : ∀ entry ∈ environment, (variableTable entry).Fits) : (ofEnvironment environment).Fits :=
  Table.fits_of_gives (gives_ofEnvironment fits)

theorem misfits_foldl {environment : List (String × String)}
    (fits : ∀ entry ∈ environment, (variableTable entry).Fits)
    (nothing : ∀ entry ∈ environment, (variableTable entry).given? k = none)
    (low : t.Misfits k v) :
    (environment.foldl (fun t entry => overTable (variableTable entry) t) t).Misfits k v := by
  induction environment generalizing t with
  | nil => exact low
  | cons entry rest ih =>
    refine ih (fun entry member => fits entry (List.mem_cons_of_mem _ member))
      (fun entry member => nothing entry (List.mem_cons_of_mem _ member)) ?_
    exact .under_fits (variableTable_distinct entry) (fits entry List.mem_cons_self)
      (nothing entry List.mem_cons_self) low

/-- The value of the last variable at the place of a setting is what stands there. -/
theorem misfits_ofEnvironment {before after : List (String × String)} {name text : String}
    (place : variablePath? name = some k.path)
    (fits : ∀ entry ∈ before ++ after, (variableTable entry).Fits)
    (last : ∀ entry ∈ after, (variableTable entry).given? k = none) :
    (ofEnvironment (before ++ (name, text) :: after)).Misfits k (Literal.value text) := by
  have earlier : ∀ entry ∈ before, (variableTable entry).Fits :=
    fun entry member => fits entry (List.mem_append_left after member)
  have later : ∀ entry ∈ after, (variableTable entry).Fits :=
    fun entry member => fits entry (List.mem_append_right before member)
  rw [ofEnvironment_eq, List.foldl_append, List.foldl_cons, ← ofEnvironment_eq]
  exact misfits_foldl later last (.over_fits (variableTable_distinct _) (variable_misfits place)
    (fits_ofEnvironment earlier))

theorem fits_defaults : default.toTable.Fits := Table.fits_of_gives (gives_toTable default)

namespace Table

theorem Misfits.given (misfits : t.Misfits k v) (different : other ≠ k)
    (found : t.find? other.table = some (.table entries)) :
    ∃ content, Settings.given (fun _ => other.read) other.path (Table.find? entries other.name)
      (default.get other) = .ok content := by
  have ok := misfits.others other different
  rw [gives_of_table found] at ok
  rw [given_eq]
  cases sought : Settings.sought other.read (Table.find? entries other.name) with
  | ok content => exact ⟨_, rfl⟩
  | error fault => simp [sought, Except.isOk, Except.toBool] at ok

theorem Misfits.found (misfits : t.Misfits k v) :
    ∃ entries, t.find? k.table = some (.table entries) ∧ Table.find? entries k.name = some v := by
  have place := misfits.place
  obtain absent | ⟨entries, found⟩ := misfits.sections k
  · rw [at?_of_absent absent] at place
    contradiction
  · exact ⟨entries, found, at?_of_table found ▸ place⟩

/-- What is looked at before the role in a broker's section, where none of it is at fault. -/
theorem Misfits.before_role (misfits : t.Misfits k v) (apart : ∀ other : Key,
    other.table = "broker" → other ≠ .role → other ≠ k)
    (found : t.find? "broker" = some (.table entries)) : ∃ address timeout enabled,
    Settings.given asText ["broker", "address"] (entries.lookup "address")
      Broker.default.address = .ok address ∧
    Settings.given asSeconds ["broker", "connect_timeout_secs"]
      (entries.lookup "connect_timeout_secs") Broker.default.timeout = .ok timeout ∧
    Settings.given asBoolean ["broker", "enabled"] (entries.lookup "enabled")
      Broker.default.enabled = .ok enabled := by
  obtain ⟨address, first⟩ := misfits.given (apart .address rfl (by decide)) found
  obtain ⟨timeout, second⟩ := misfits.given (apart .timeout rfl (by decide)) found
  obtain ⟨enabled, third⟩ := misfits.given (apart .enabled rfl (by decide)) found
  exact ⟨address, timeout, enabled, first, second, third⟩

/-- A broker's section without the misfit is read. -/
theorem Misfits.broker (misfits : t.Misfits k v) (elsewhere : k.table ≠ "broker") :
    ∃ broker, (t.lookup "broker").elim (.ok .default) Broker.ofValue = .ok broker := by
  have different (key : Key) (inside : key.table = "broker") : key ≠ k := by
    rintro rfl
    exact elsewhere inside
  obtain absent | ⟨entries, found⟩ := misfits.sections .enabled
  · change t.lookup "broker" = none at absent
    rw [absent]
    exact ⟨_, rfl⟩
  · obtain ⟨_, _, _, address, timeout, enabled⟩ :=
      misfits.before_role (fun other inside _ => different other inside) found
    obtain ⟨_, role⟩ := misfits.given (different .role rfl) found
    change Settings.given asText ["broker", "role"] (entries.lookup "role")
      Broker.default.role = _ at role
    change t.lookup "broker" = some (.table entries) at found
    rw [found]
    simp only [Option.elim, Broker.ofValue, address, timeout, enabled, role]
    exact ⟨_, rfl⟩

theorem asText_misfit (path : List String) (other : ∀ text, v ≠ .text text) :
    asText path v = .error (.wrongType path v .text) := by
  cases v with
  | text text => exact absurd rfl (other text)
  | _ => rfl

theorem ofTable_host (misfits : t.Misfits .host v) (other : ∀ text, v ≠ .text text) :
    ofTable t = .error (.wrongType Key.host.path v .text) := by
  obtain ⟨broker, read⟩ := misfits.broker (by decide)
  obtain ⟨entries, found, place⟩ := misfits.found
  change t.lookup "server" = some (.table entries) at found
  change entries.lookup "host" = some v at place
  rw [ofTable_eq, read, found]
  simp only [Option.elim, Server.ofValue, place, Settings.given, asText_misfit _ other]
  rfl

theorem ofTable_address (misfits : t.Misfits .address v) (other : ∀ text, v ≠ .text text) :
    ofTable t = .error (.wrongType Key.address.path v .text) := by
  obtain ⟨entries, found, place⟩ := misfits.found
  change t.lookup "broker" = some (.table entries) at found
  change entries.lookup "address" = some v at place
  rw [ofTable_eq, found]
  simp only [Option.elim, Broker.ofValue, place, Settings.given, asText_misfit _ other]
  rfl

/-- The role is looked at last in its section. -/
theorem ofTable_role (misfits : t.Misfits .role v) (other : ∀ text, v ≠ .text text) :
    ofTable t = .error (.wrongType Key.role.path v .text) := by
  obtain ⟨entries, found, place⟩ := misfits.found
  obtain ⟨_, _, _, address, timeout, enabled⟩ := misfits.before_role (fun _ _ other => other) found
  change t.lookup "broker" = some (.table entries) at found
  change entries.lookup "role" = some v at place
  rw [ofTable_eq, found]
  simp only [Option.elim, Broker.ofValue, address, timeout, enabled, place]
  simp only [Settings.given, asText_misfit _ other]
  rfl

/-- With a value of the wrong type in the place of a text, a table is not read, and that value
is the fault. -/
theorem ofTable_of_misfits (misfits : t.Misfits k v) (textual : k ∈ [Key.host, .address, .role])
    (other : ∀ text, v ≠ .text text) : ofTable t = .error (.wrongType k.path v .text) := by
  simp only [List.mem_cons, List.not_mem_nil, or_false] at textual
  rcases textual with rfl | rfl | rfl
  · exact ofTable_host misfits other
  · exact ofTable_address misfits other
  · exact ofTable_role misfits other

end Table

end AggregateStage.Settings
