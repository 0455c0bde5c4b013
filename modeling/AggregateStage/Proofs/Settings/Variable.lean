import AggregateStage.Proofs.Settings.Overlay

/-! Settings of the environment. The last variable that gives a setting decides it, and one
whose place has nothing to do with a setting's has no effect on it. -/
namespace AggregateStage.Settings

/-- The table that a variable sets, which has a single value. -/
def variableTable (entry : String × String) : Table :=
  match variablePath? entry.1 with
  | some (key :: path) => [(key, (Literal.value entry.2).nested path)]
  | _ => []

theorem variableTable_distinct (entry : String × String) : (variableTable entry).Distinct := by
  unfold variableTable
  split
  · exact Table.distinct_single (Value.distinct_nested (Literal.value_distinct _) _)
  · exact Table.distinct_nil

variable {environment : List (String × String)} {t : Table} {k other : Key} {name : String}
  {path : List String}

theorem ofEnvironment_eq (environment : List (String × String)) :
    ofEnvironment environment =
      environment.foldl (fun t entry => overTable (variableTable entry) t) [] := by
  unfold ofEnvironment
  congr
  funext t ⟨name, text⟩
  dsimp only [variableTable]
  cases variablePath? name with
  | none => rfl
  | some path => cases path <;> rfl

theorem ofEnvironment_distinct (environment : List (String × String)) :
    (ofEnvironment environment).Distinct := by
  rw [ofEnvironment_eq]
  suffices kept : ∀ t : Table, t.Distinct →
      (environment.foldl (fun t entry => overTable (variableTable entry) t) t).Distinct from
    kept [] Table.distinct_nil
  induction environment with
  | nil => exact fun _ distinct => distinct
  | cons entry rest ih =>
    exact fun t distinct => ih _ (Table.distinct_over (variableTable_distinct entry) distinct)

/-- What an environment gives for a setting, by its last variable that gives it. -/
def environmentGiven? (environment : List (String × String)) (k : Key) : Option k.Content :=
  environment.reverse.findSome? fun entry => (variableTable entry).given? k

theorem environmentGiven?_cons (entry : String × String) (rest : List (String × String)) (k : Key) :
    environmentGiven? (entry :: rest) k =
      (environmentGiven? rest k).or ((variableTable entry).given? k) := by
  simp [environmentGiven?, List.findSome?_append]

/-- One variable after the other is laid over the table so far. -/
theorem gives_foldl (fits : ∀ entry ∈ environment, (variableTable entry).Fits) (low : t.Fits)
    (k : Key) :
    (environment.foldl (fun t entry => overTable (variableTable entry) t) t).gives k =
      .ok ((environmentGiven? environment k).or (t.given? k)) := by
  induction environment generalizing t with
  | nil => exact low.gives k
  | cons entry rest ih =>
    have single := variableTable_distinct entry
    have first := fits entry List.mem_cons_self
    have later := fun entry member => fits entry (List.mem_cons_of_mem _ member)
    rw [List.foldl_cons, ih later (Table.fits_over single first low),
      Table.given?_over single first low, environmentGiven?_cons, Option.or_assoc]

theorem gives_ofEnvironment (fits : ∀ entry ∈ environment, (variableTable entry).Fits) (k : Key) :
    (ofEnvironment environment).gives k = .ok (environmentGiven? environment k) := by
  have nothing : Table.Fits [] := fun _ => rfl
  rw [ofEnvironment_eq, gives_foldl fits nothing]
  exact congrArg Except.ok Option.or_none

/-- A variable at the place of a setting gives its value, if that is of the setting's type. -/
theorem gives_variable_at (text : String) (place : variablePath? name = some k.path) :
    (variableTable (name, text)).gives k = (k.read (Literal.value text)).map some := by
  have single : variableTable (name, text) =
      [(k.table, .table [(k.name, Literal.value text)])] := by
    simp only [variableTable, place]
    rfl
  have found : (variableTable (name, text)).find? k.table =
      some (.table [(k.name, Literal.value text)]) := by
    rw [single, Table.find?_cons, if_pos rfl]
  rw [Table.gives_of_table found, Table.find?_cons, if_pos rfl, sought]

/-- A variable gives nothing for a setting if neither of their places is within the other. -/
theorem gives_variable_apart (text : String) (place : variablePath? name = some path)
    (above : ¬ path <+: k.path) (below : ¬ k.path <+: path) :
    (variableTable (name, text)).gives k = .ok none := by
  match path with
  | [] => exact absurd List.nil_prefix above
  | [key] =>
    have other : k.table ≠ key := by
      rintro rfl
      exact above ⟨[k.name], rfl⟩
    have single : variableTable (name, text) = [(key, Literal.value text)] := by
      simp only [variableTable, place]
      rfl
    apply Table.gives_of_absent
    rw [single, Table.find?_cons, if_neg other]
    rfl
  | key :: second :: rest =>
    have single : variableTable (name, text) =
        [(key, .table [(second, (Literal.value text).nested rest)])] := by
      simp only [variableTable, place]
      rfl
    by_cases same : k.table = key
    · have other : k.name ≠ second := by
        rintro rfl
        exact below ⟨rest, by rw [← same]; rfl⟩
      have found : (variableTable (name, text)).find? k.table =
          some (.table [(second, (Literal.value text).nested rest)]) := by
        rw [single, Table.find?_cons, if_pos same]
      rw [Table.gives_of_table found, Table.find?_cons, if_neg other]
      rfl
    · apply Table.gives_of_absent
      rw [single, Table.find?_cons, if_neg same]
      rfl

theorem Key.path_inj : k.path = other.path → k = other := by
  cases k <;> cases other <;> decide

theorem Key.not_prefix (different : k ≠ other) : ¬ k.path <+: other.path :=
  fun within => different (Key.path_inj (within.eq_of_length rfl))

/-- A variable at the place of a setting fits if its value is of the setting's type. -/
theorem variable_fits_iff (text : String) (place : variablePath? name = some k.path) :
    (variableTable (name, text)).Fits ↔ (k.read (Literal.value text)).isOk := by
  have same := gives_variable_at text place
  constructor
  · intro fits
    have ok := fits k
    rw [same] at ok
    cases found : k.read (Literal.value text) with
    | ok content => rfl
    | error fault => simp [found, Except.map, Except.isOk, Except.toBool] at ok
  · intro ok other
    by_cases this : other = k
    · subst this
      rw [same]
      cases found : other.read (Literal.value text) with
      | ok content => rfl
      | error fault => simp [found, Except.isOk, Except.toBool] at ok
    · rw [gives_variable_apart text place (Key.not_prefix (Ne.symm this)) (Key.not_prefix this)]
      rfl

/-- A variable whose place has nothing to do with a setting's fits, and so does one that has
no place. -/
theorem variable_fits_apart (text : String)
    (apart : ∀ path, variablePath? name = some path →
      ∀ k : Key, ¬ path <+: k.path ∧ ¬ k.path <+: path) : (variableTable (name, text)).Fits := by
  intro k
  cases place : variablePath? name with
  | none =>
    have nothing : variableTable (name, text) = [] := by simp only [variableTable, place]
    rw [nothing]
    rfl
  | some path =>
    obtain ⟨above, below⟩ := apart path place k
    rw [gives_variable_apart text place above below]
    rfl

end AggregateStage.Settings
