import AggregateStage.Proofs.Toml.Distinct
import AggregateStage.Settings

/-! Tables of settings have each name once, whether they come from a document or from a
variable. -/
namespace AggregateStage.Settings

/-- Each name occurs once, in a table and in those under its names. -/
inductive Table.Distinct : Table → Prop where
  | intro {t : Table} (names : (t.map Prod.fst).Nodup)
      (under : ∀ name entries, t.find? name = some (.table entries) → Table.Distinct entries) :
      Table.Distinct t

/-- Each name occurs once in a value, if that is a table. -/
def Value.Distinct (value : Value) : Prop :=
  ∀ entries, value = .table entries → Table.Distinct entries

variable {t entries : Table} {name : String} {value : Value}

namespace Table

theorem Distinct.names (distinct : Table.Distinct t) : (t.map Prod.fst).Nodup := by
  cases distinct with
  | intro names _ => exact names

theorem Distinct.find? (distinct : Table.Distinct t) (found : t.find? name = some value) :
    value.Distinct := by
  rintro entries rfl
  cases distinct with
  | intro _ under => exact under name entries found

theorem distinct_nil : Table.Distinct [] := .intro List.nodup_nil (by simp [Table.find?])

theorem find?_cons (t : Table) (name : String) (value : Value) (key : String) :
    Table.find? ((name, value) :: t) key = if key = name then some value else t.find? key :=
  Named.lookup_cons t name value key

theorem distinct_cons (distinct : Table.Distinct t) (new : t.lookup name = none)
    (below : value.Distinct) : Table.Distinct ((name, value) :: t) := by
  refine .intro (List.nodup_cons.mpr ⟨Named.lookup_eq_none_iff.mp new, distinct.names⟩) ?_
  intro key entries found
  rw [find?_cons] at found
  split at found
  · exact below entries (Option.some.inj found)
  · exact distinct.find? found entries rfl

theorem distinct_single (below : value.Distinct) : Table.Distinct [(name, value)] :=
  distinct_cons distinct_nil rfl below

end Table

theorem Value.distinct_table (distinct : Table.Distinct t) : (Value.table t).Distinct := by
  rintro _ ⟨⟩
  exact distinct

theorem Value.distinct_of_ne (other : ∀ entries, value ≠ .table entries) : value.Distinct :=
  fun entries same => absurd same (other entries)

theorem Value.distinct_nested (distinct : value.Distinct) (path : List String) :
    (value.nested path).Distinct := by
  induction path with
  | nil => exact distinct
  | cons name path ih => exact distinct_table (Table.distinct_single ih)

section Document

variable {node : Toml.Node} {members : Toml.Entries}

theorem names_ofEntries (members : Toml.Entries) :
    (ofEntries members).map Prod.fst = members.map Prod.fst := by
  induction members with
  | nil => rfl
  | cons head rest ih => simp [ofEntries, ih]

theorem find?_ofEntries (members : Toml.Entries) (name : String) :
    (ofEntries members).find? name = (members.lookup name).map Value.ofNode := by
  induction members with
  | nil => rfl
  | cons head rest ih =>
    obtain ⟨key, node⟩ := head
    rw [ofEntries, Table.find?_cons, Named.lookup_cons, ih]
    split <;> rfl

/-- A date leaves a table as well, one without entries. -/
theorem ofNode_eq_table (same : Value.ofNode node = .table t) :
    t = [] ∨ ∃ members, node.entries? = some members ∧ t = ofEntries members := by
  cases node <;> simp_all [Value.ofNode, Toml.Node.entries?]

theorem distinct_ofEntries (distinct : Toml.Distinct members) :
    Table.Distinct (ofEntries members) := by
  induction distinct with
  | @intro members names _ ih =>
    refine .intro (by rwa [names_ofEntries]) ?_
    intro name t found
    rw [find?_ofEntries] at found
    obtain ⟨node, inside, same⟩ := Option.map_eq_some_iff.mp found
    obtain rfl | ⟨below, entries, rfl⟩ := ofNode_eq_table same
    · exact Table.distinct_nil
    · exact ih name node below inside entries

end Document

namespace Literal

variable {cs rest : List Char}

theorem ofPlain_ne_table (text : List Char) (entries : Table) : ofPlain text ≠ .table entries := by
  unfold ofPlain
  split
  · simp
  · split
    · simp
    · split <;> simp

theorem of_padded {part : Option (Value × List Char)}
    (taken : (do let (found, behind) ← part; return (found, skipBlanks behind)) =
      some (value, rest)) : ∃ behind, part = some (value, behind) := by
  obtain ⟨⟨found, behind⟩, one, same⟩ := Option.bind_eq_some_iff.mp taken
  obtain ⟨rfl, -⟩ := Prod.mk.inj (Option.some.inj same)
  exact ⟨behind, one⟩

/-- Only braces are read as a table. -/
theorem read_cases {bound : Nat} (taken : read (bound + 1) cs = some (value, rest)) :
    (∀ entries, value ≠ .table entries) ∨ ∃ inner entries behind,
      readEntries bound inner = some (entries, behind) ∧ value = .table entries := by
  rw [read.eq_def] at taken
  simp only at taken
  split at taken <;> obtain ⟨behind, one⟩ := of_padded taken
  · obtain ⟨rfl, -⟩ := Prod.mk.inj (Option.some.inj one)
    exact .inl (by simp)
  · obtain ⟨rfl, -⟩ := Prod.mk.inj (Option.some.inj one)
    exact .inl (by simp)
  · obtain ⟨⟨entries, _⟩, inside, same⟩ := Option.map_eq_some_iff.mp one
    obtain ⟨rfl, rfl⟩ := Prod.mk.inj same
    exact .inr ⟨_, entries, _, inside, rfl⟩
  · obtain ⟨_, _, same⟩ := Option.map_eq_some_iff.mp one
    obtain ⟨rfl, -⟩ := Prod.mk.inj same
    exact .inl (by simp)
  · obtain ⟨_, _, same⟩ := Option.map_eq_some_iff.mp one
    obtain ⟨rfl, -⟩ := Prod.mk.inj same
    exact .inl (by simp)
  · obtain ⟨rfl, -⟩ := Prod.mk.inj (Option.some.inj one)
    exact .inl (by simp)
  · contradiction
  · obtain ⟨rfl, -⟩ := Prod.mk.inj (Option.some.inj one)
    exact .inl (ofPlain_ne_table _)

theorem readEntries_cases {bound : Nat}
    (taken : readEntries (bound + 1) cs = some (entries, rest)) :
    entries = [] ∨ ∃ name value more inner behind,
      read bound inner = some (value, behind) ∧
        (more = [] ∨ ∃ next, readEntries bound next = some (more, rest)) ∧
          entries = if (more.lookup name).isSome then more else (name, value) :: more := by
  rw [readEntries.eq_def] at taken
  simp only at taken
  split at taken
  · contradiction
  · obtain ⟨rfl, -⟩ := Prod.mk.inj (Option.some.inj taken)
    exact .inl rfl
  · next less same _ =>
    obtain rfl := Nat.succ.inj same
    simp only [Option.bind_eq_bind, Option.bind_eq_some_iff] at taken
    obtain ⟨⟨name, _⟩, _, ⟨value, behind⟩, first, others⟩ := taken
    refine .inr ⟨name, value, ?_⟩
    split at others
    · obtain ⟨rfl, -⟩ := Prod.mk.inj (Option.some.inj others)
      exact ⟨[], _, behind, first, .inl rfl, rfl⟩
    · obtain ⟨⟨more, _⟩, next, same⟩ := Option.map_eq_some_iff.mp others
      obtain ⟨rfl, rfl⟩ := Prod.mk.inj same
      exact ⟨more, _, behind, first, .inr ⟨_, next⟩, rfl⟩
    · contradiction

theorem read_distinct (bound : Nat) :
    (∀ {cs rest : List Char} {value : Value},
      read bound cs = some (value, rest) → value.Distinct) ∧
    ∀ {cs rest : List Char} {entries : Table},
      readEntries bound cs = some (entries, rest) → Table.Distinct entries := by
  induction bound with
  | zero => exact ⟨by simp [read], by simp [readEntries]⟩
  | succ bound ih =>
    obtain ⟨values, tables⟩ := ih
    constructor
    · intro cs rest value taken
      obtain other | ⟨_, entries, _, inside, rfl⟩ := read_cases taken
      · exact Value.distinct_of_ne other
      · exact Value.distinct_table (tables inside)
    · intro cs rest entries taken
      obtain rfl | ⟨name, value, more, _, _, first, others, rfl⟩ := readEntries_cases taken
      · exact Table.distinct_nil
      · have behind : Table.Distinct more := by
          obtain rfl | ⟨_, next⟩ := others
          · exact Table.distinct_nil
          · exact tables next
        split
        · exact behind
        · next new =>
          exact Table.distinct_cons behind (Option.not_isSome_iff_eq_none.mp new) (values first)

theorem value_distinct (text : String) : (Literal.value text).Distinct := by
  unfold Literal.value
  split
  · next taken => exact (read_distinct _).1 taken
  · exact Value.distinct_of_ne (by simp)

end Literal

end AggregateStage.Settings
