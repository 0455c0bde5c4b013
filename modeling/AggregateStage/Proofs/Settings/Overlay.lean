import AggregateStage.Proofs.Settings.Distinct
import AggregateStage.Proofs.Settings.Key

/-! Tables laid over one another. What comes out gives for each setting what the upper table
gives, or else what the lower one does. -/
namespace AggregateStage.Settings

/-- A value that need not be there, laid over another that need not be there. -/
def Value.above : Option Value → Option Value → Option Value
  | none, under => under
  | some value, none => some value
  | some value, some under => some (value.over under)

variable {upper lower : Table} {k : Key}

/-- Tables are joined, and any other value replaces what is under it. -/
theorem Value.over_cases (value under : Value) :
    (∃ entries rest, value = .table entries ∧ under = .table rest ∧
      value.over under = .table (overTable entries rest)) ∨ value.over under = value := by
  cases value with
  | table entries =>
    cases under with
    | table rest => exact .inl ⟨entries, rest, rfl, rfl, by rw [Value.over]⟩
    | _ => exact .inr (by simp [Value.over])
  | _ => exact .inr (by simp [Value.over])

/-- A table is nothing that a setting can be. -/
theorem Key.read_table (k : Key) (entries : Table) : ¬ (k.read (.table entries)).isOk := by
  cases k <;> simp [Key.read, asText, asBoolean, asPort, asSeconds, asNatural, Except.map,
    Except.isOk, Except.toBool]

/-- What reads as a setting replaces what is under it. -/
theorem Key.over_of_read {value : Value} {content : k.Content} (fits : k.read value = .ok content)
    (under : Value) : value.over under = value := by
  obtain ⟨entries, _, rfl, _⟩ | same := value.over_cases under
  · refine absurd ?_ (k.read_table entries)
    rw [fits]
    rfl
  · exact same

/-- Laid over one another, values are read as the upper one, if it is there. -/
theorem sought_above {value under : Option Value} {content rest : Option k.Content}
    (high : sought k.read value = .ok content) (low : sought k.read under = .ok rest) :
    sought k.read (Value.above value under) = .ok (content.or rest) := by
  cases value with
  | none =>
    obtain rfl := Except.ok.inj high
    exact low
  | some value =>
    cases fits : k.read value with
    | error fault => simp [sought, fits, Except.map] at high
    | ok found =>
      have same : some found = content := by simpa [sought, fits, Except.map] using high
      cases under with
      | none => simp [Value.above, sought, fits, Except.map, ← same]
      | some under =>
        simp [Value.above, Key.over_of_read fits, sought, fits, Except.map, ← same]

namespace Table

theorem find?_put (t : Table) (name : String) (value : Value) (key : String) :
    Table.find? (Named.put t name value) key = if key = name then some value else t.find? key :=
  Named.lookup_put t name value key

/-- Each name has the upper value laid over the lower one. -/
theorem find?_over (distinct : (upper.map Prod.fst).Nodup) (lower : Table) (key : String) :
    (overTable upper lower).find? key = Value.above (upper.find? key) (lower.find? key) := by
  induction upper generalizing lower with
  | nil => rfl
  | cons head rest ih =>
    obtain ⟨name, value⟩ := head
    obtain ⟨new, others⟩ := List.nodup_cons.mp distinct
    have absent : Table.find? rest name = none := Named.lookup_eq_none_iff.mpr new
    rw [overTable, ih others, find?_put, find?_cons]
    by_cases same : key = name
    · -- No later entry has the name, so what is put there stays.
      rw [if_pos same, if_pos same, same, absent]
      cases lower.find? name <;> rfl
    · rw [if_neg same, if_neg same]

theorem nodup_over (upper : Table) (nodup : (lower.map Prod.fst).Nodup) :
    ((overTable upper lower).map Prod.fst).Nodup := by
  induction upper generalizing lower with
  | nil => exact nodup
  | cons head rest ih =>
    rw [overTable]
    exact ih (Named.nodup_put nodup _ _)

theorem distinct_over (high : upper.Distinct) (low : lower.Distinct) :
    (overTable upper lower).Distinct := by
  induction high generalizing lower with
  | @intro upper names under ih =>
    refine .intro (nodup_over upper low.names) ?_
    intro name entries found
    rw [find?_over names] at found
    cases above : upper.find? name with
    | none =>
      rw [above, Value.above] at found
      exact low.find? found entries rfl
    | some value =>
      cases below : lower.find? name with
      | none =>
        rw [above, below, Value.above] at found
        obtain rfl := Option.some.inj found
        exact under name entries above
      | some rest =>
        rw [above, below, Value.above] at found
        have joined : value.over rest = .table entries := Option.some.inj found
        obtain ⟨inner, outer, rfl, rfl, same⟩ | same := value.over_cases rest
        · obtain rfl := Value.table.inj (same.symm.trans joined)
          exact ih name inner above (low.find? below outer rfl)
        · obtain rfl := same.symm.trans joined
          exact under name entries above

/-- A table over another one gives what it gives by itself, or else what the other gives. -/
theorem gives_over (distinct : upper.Distinct) (high : upper.Fits) (low : lower.Fits) (k : Key) :
    (overTable upper lower).gives k = .ok ((upper.given? k).or (lower.given? k)) := by
  have found := find?_over distinct.names lower k.table
  obtain absent | ⟨entries, upperTable⟩ := high.table_cases k
  · rw [absent, Value.above] at found
    rw [given?_of_absent absent, Option.none_or, ← low.gives k, gives, gives, found]
  · obtain absent | ⟨under, lowerTable⟩ := low.table_cases k
    · rw [upperTable, absent, Value.above] at found
      rw [given?_of_absent absent, Option.or_none, gives_of_table found]
      exact high.sought k upperTable
    · have names := (distinct.find? upperTable entries rfl).names
      rw [upperTable, lowerTable, Value.above, Value.over] at found
      rw [gives_of_table found, find?_over names under k.name]
      exact sought_above (high.sought k upperTable) (low.sought k lowerTable)

theorem fits_over (distinct : upper.Distinct) (high : upper.Fits) (low : lower.Fits) :
    (overTable upper lower).Fits := fits_of_gives (gives_over distinct high low)

theorem given?_over (distinct : upper.Distinct) (high : upper.Fits) (low : lower.Fits) (k : Key) :
    (overTable upper lower).given? k = (upper.given? k).or (lower.given? k) :=
  given?_of_gives (gives_over distinct high low k)

end Table

end AggregateStage.Settings
