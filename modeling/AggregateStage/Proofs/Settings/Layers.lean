import AggregateStage.Proofs.Settings.Variable

/-! The layers that settings come from. Each setting by itself is what the uppermost layer
that gives it says, whatever the layers say of others. -/
namespace AggregateStage

/-- What a command line gives for a setting. Its flags without a value only turn off. -/
def Arguments.given? (a : Arguments) : (k : Settings.Key) → Option k.Content
  | .host => a.host
  | .port => a.port
  | .reflection => if a.noReflection then some false else .none
  | .enabled => if a.noBroker then some false else .none
  | .address => a.broker
  | .role => a.role
  | .timeout => a.timeout

namespace Settings

theorem get_withArguments (s : Settings) (a : Arguments) (k : Key) :
    (s.withArguments a).get k = (a.given? k).getD (s.get k) := by
  cases k with
  | reflection =>
    cases off : a.noReflection <;> simp [get, withArguments, Arguments.given?, off]
  | enabled => cases off : a.noBroker <;> simp [get, withArguments, Arguments.given?, off]
  | _ => rfl

theorem withArguments_twice (s : Settings) (a : Arguments) :
    (s.withArguments a).withArguments a = s.withArguments a := by
  apply ext_get
  intro k
  rw [get_withArguments, get_withArguments]
  cases a.given? k <;> rfl

inductive Layer where
  | commandLine
  | file
  | environment
  | defaults
  deriving DecidableEq, Repr

/-- The layers, the uppermost one first. -/
def Layer.descending : List Layer := [.commandLine, .file, .environment, .defaults]

/-- All that settings come from besides the defaults. -/
structure Sources where
  environment : List (String × String)
  /-- The path of a configuration file, if one is named. -/
  path : Option String
  /-- The text of the file at a path, if there is one. -/
  disk : String → Option String
  arguments : Arguments

/-- The table of a file's text, if it is a document. -/
def fileTable? (text : String) : Option Table := (Toml.parse? text).map ofEntries

namespace Sources

variable {sources other : Sources} {k : Key}

/-- The text of the configuration file, if there is one. -/
def file (sources : Sources) : Option String := sources.path.bind sources.disk

/-- The settings of the program. -/
def settings (sources : Sources) : Except Fault Settings :=
  (load sources.environment sources.file).map (·.withArguments sources.arguments)

/-- What a layer gives for a setting. -/
def given? (sources : Sources) (k : Key) : Layer → Option k.Content
  | .commandLine => sources.arguments.given? k
  | .file => (sources.file.bind fileTable?).bind (·.given? k)
  | .environment => environmentGiven? sources.environment k
  | .defaults => some (default.get k)

/-- Whatever stands in the place of a setting is of its type. -/
structure Proper (sources : Sources) : Prop where
  environment : ∀ entry ∈ sources.environment, (variableTable entry).Fits
  document : ∀ text, sources.file = some text → ∃ t, fileTable? text = some t ∧ t.Fits

/-- The table of the layers that are loaded. -/
def table (sources : Sources) : Table :=
  let lower := overTable (ofEnvironment sources.environment) default.toTable
  match sources.file.bind fileTable? with
  | some upper => overTable upper lower
  | none => lower

theorem fileTable_distinct {text : String} {t : Table} (read : fileTable? text = some t) :
    t.Distinct := by
  obtain ⟨entries, parsed, rfl⟩ := Option.map_eq_some_iff.mp read
  exact distinct_ofEntries (Toml.parse?_distinct parsed)

theorem Proper.load_eq (proper : sources.Proper) :
    load sources.environment sources.file = ofTable sources.table := by
  unfold load table
  cases file : sources.file with
  | none => rfl
  | some text =>
    obtain ⟨t, read, _⟩ := proper.document text file
    obtain ⟨entries, parsed, rfl⟩ := Option.map_eq_some_iff.mp read
    simp only [parsed, read, Option.bind_some]

theorem Proper.gives_lower (proper : sources.Proper) (k : Key) :
    (overTable (ofEnvironment sources.environment) default.toTable).gives k =
      .ok ((sources.given? k .environment).or (sources.given? k .defaults)) := by
  have high := gives_ofEnvironment proper.environment
  have low := gives_toTable default
  rw [Table.gives_over (ofEnvironment_distinct _) (Table.fits_of_gives high)
    (Table.fits_of_gives low), Table.given?_of_gives (high k), Table.given?_of_gives (low k)]
  rfl

/-- The loaded layers give for each setting what the uppermost one of them gives. -/
theorem Proper.gives_table (proper : sources.Proper) (k : Key) :
    sources.table.gives k = .ok ((sources.given? k .file).or
      ((sources.given? k .environment).or (sources.given? k .defaults))) := by
  have lower := proper.gives_lower
  unfold table
  cases document : sources.file.bind fileTable? with
  | none =>
    have nothing : sources.given? k .file = none := by simp [given?, document]
    rw [nothing, Option.none_or]
    exact lower k
  | some upper =>
    have file : sources.given? k .file = upper.given? k := by simp [given?, document]
    obtain ⟨text, found, read⟩ := Option.bind_eq_some_iff.mp document
    have fits : upper.Fits := by
      obtain ⟨t, same, fits⟩ := proper.document text found
      obtain rfl := Option.some.inj (same.symm.trans read)
      exact fits
    rw [Table.gives_over (fileTable_distinct read) fits (Table.fits_of_gives lower),
      Table.given?_of_gives (lower k), file]

/-- What the uppermost layer that gives a setting says of it. -/
def uppermost? (sources : Sources) (k : Key) : Option k.Content :=
  Layer.descending.findSome? (sources.given? k)

theorem uppermost?_eq (sources : Sources) (k : Key) :
    sources.uppermost? k = some ((sources.arguments.given? k).getD
      (((sources.given? k .file).or ((sources.given? k .environment).or
        (sources.given? k .defaults))).getD (default.get k))) := by
  simp only [uppermost?, Layer.descending, List.findSome?_cons, given?]
  cases sources.arguments.given? k with
  | some content => rfl
  | none =>
    cases (sources.file.bind fileTable?).bind (·.given? k) with
    | some content => rfl
    | none => cases environmentGiven? sources.environment k <;> rfl

/-- The layers below the command line are loaded, and each setting under the arguments is as
the uppermost layer that gives it says. -/
theorem Proper.loads (proper : sources.Proper) :
    ∃ loaded, load sources.environment sources.file = .ok loaded ∧
      ∀ k, sources.uppermost? k = some ((loaded.withArguments sources.arguments).get k) := by
  have fits := Table.fits_of_gives proper.gives_table
  refine ⟨sources.table.settings, ?_, fun k => ?_⟩
  · rw [proper.load_eq, Table.ofTable_of_fits fits]
  · rw [get_withArguments, Table.get_settings, Table.given?_of_gives (proper.gives_table k)]
    exact sources.uppermost?_eq k

theorem settings_of_load {loaded : Settings}
    (loads : load sources.environment sources.file = .ok loaded) :
    sources.settings = .ok (loaded.withArguments sources.arguments) := by
  rw [Sources.settings, loads, Except.map]

/-- Settings can be had from layers that give each setting nothing or a value of its type, and
each of them is what the uppermost layer that gives it says. So it does not change with what
is given for others, and a table that is filled in part leaves alone what it does not give. A
file that is not there is as good as none, and arguments do nothing when they come again. -/
theorem uppermost_layer_counts (sources : Sources) (proper : sources.Proper) :
    ∃ settings, sources.settings = .ok settings ∧
      (∀ k, sources.uppermost? k = some (settings.get k)) ∧
      (∀ other : Sources, other.Proper → ∃ others, other.settings = .ok others ∧
        ∀ k, (∀ layer, other.given? k layer = sources.given? k layer) →
          others.get k = settings.get k) ∧
      (sources.file = none → { sources with path := none }.settings = .ok settings) ∧
      settings.withArguments sources.arguments = settings := by
  obtain ⟨loaded, loads, each⟩ := proper.loads
  have had := settings_of_load loads
  refine ⟨loaded.withArguments sources.arguments, had, each, ?_, ?_, ?_⟩
  · intro other alike
    obtain ⟨below, found, all⟩ := alike.loads
    refine ⟨below.withArguments other.arguments, settings_of_load found, fun k agree => ?_⟩
    apply Option.some.inj
    rw [← all k, ← each k, uppermost?, uppermost?, funext agree]
  · intro missing
    rw [← had, Sources.settings, Sources.settings, missing]
    rfl
  · exact withArguments_twice loaded sources.arguments

def mixedText : String := "[broker]\nrole = \"from-file\"\n"

/-- Every layer gives something; the role comes from two of them, and one variable is no
setting's. -/
def mixed : Sources where
  environment := [("SLUICE_SERVER__PORT", "7100"), ("SLUICE_BROKER__ROLE", "from-env"),
    ("SLUICE_BROKER__CONNECT_TIMEOUT_SECS", "9"), ("SLUICE_CONFIG", "sluice.toml")]
  path := some "sluice.toml"
  disk path := if path = "sluice.toml" then some mixedText else none
  arguments := { Arguments.none with host := some "0.0.0.0", noReflection := true }

theorem mixed_proper : mixed.Proper where
  environment entry member := by
    simp only [mixed, List.mem_cons, List.not_mem_nil, or_false] at member
    rcases member with rfl | rfl | rfl | rfl
    · exact (variable_fits_iff (k := .port) _ (by decide +kernel)).mpr (by decide +kernel)
    · exact (variable_fits_iff (k := .role) _ (by decide +kernel)).mpr (by decide +kernel)
    · exact (variable_fits_iff (k := .timeout) _ (by decide +kernel)).mpr (by decide +kernel)
    · refine variable_fits_apart _ fun path place k => ?_
      have own : variablePath? "SLUICE_CONFIG" = some ["config"] := by decide +kernel
      obtain rfl := Option.some.inj (own.symm.trans place)
      cases k <;> decide
  document text found := by
    obtain rfl : mixedText = text := Option.some.inj found
    have each : ∀ k : Key, (fileTable? mixedText).any fun t => (t.gives k).isOk :=
      fun k => by cases k <;> decide +kernel
    cases read : fileTable? mixedText with
    | none => simpa [read] using each .host
    | some t => exact ⟨t, rfl, fun k => by simpa [read] using each k⟩

theorem uppermost_layer_counts_mixed : mixed.Proper ∧ mixed.settings =
    .ok ⟨⟨"0.0.0.0", 7100, false⟩, ⟨true, "127.0.0.1:50051", "from-file", 9⟩⟩ := by
  obtain ⟨settings, had, each, _⟩ := uppermost_layer_counts mixed mixed_proper
  refine ⟨mixed_proper, had.trans (congrArg Except.ok (ext_get fun k => ?_))⟩
  apply Option.some.inj
  rw [← each k]
  cases k <;> decide +kernel

end Sources

end Settings

end AggregateStage
