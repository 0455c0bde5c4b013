import AggregateStage.Proofs.Named
import AggregateStage.Toml.Reader

/-! Documents have each name once, in every table of theirs. A name that is there already is
refused or its table is gone into; nothing is put beside it. -/
namespace AggregateStage.Toml

/-- The entries of a node that is a single table. -/
def Node.entries? : Node → Option Entries
  | .braces _ entries | .table _ entries => some entries
  | _ => none

/-- Each name occurs once, in a table and in those under its names. -/
inductive Distinct : Entries → Prop where
  | intro {entries : Entries} (names : (entries.map Prod.fst).Nodup)
      (under : ∀ name node below, entries.lookup name = some node → node.entries? = some below →
        Distinct below) : Distinct entries

/-- Each name occurs once in a node, if that is a table. -/
def Node.Distinct (node : Node) : Prop :=
  ∀ below, node.entries? = some below → Toml.Distinct below

variable {entries after under : Entries} {name : String} {node : Node}

theorem Distinct.names (distinct : Distinct entries) : (entries.map Prod.fst).Nodup := by
  cases distinct with
  | intro names _ => exact names

theorem Distinct.lookup (distinct : Distinct entries) (found : entries.lookup name = some node) :
    node.Distinct := by
  cases distinct with
  | intro _ under => exact fun below same => under name node below found same

theorem distinct_nil : Distinct [] := .intro List.nodup_nil (by simp)

theorem Node.distinct_of_none (none : node.entries? = none) : node.Distinct := by
  intro below same
  rw [none] at same
  contradiction

theorem Node.distinct_table {origin : Origin} (distinct : Toml.Distinct entries) :
    (Node.table origin entries).Distinct := by
  rintro below ⟨⟩
  exact distinct

theorem Node.distinct_braces {dotted : Bool} (distinct : Toml.Distinct entries) :
    (Node.braces dotted entries).Distinct := by
  rintro below ⟨⟩
  exact distinct

namespace Entries

theorem distinct_put (distinct : Distinct entries) (below : node.Distinct) :
    Distinct (Named.put entries name node) := by
  refine .intro (Named.nodup_put distinct.names name node) ?_
  intro other value under found same
  rw [Named.lookup_put] at found
  split at found
  · obtain rfl := Option.some.inj found
    exact below under same
  · exact distinct.lookup found under same

theorem distinct_add (distinct : Distinct entries) (below : node.Distinct)
    (added : entries.add name node = some after) : Distinct after := by
  unfold add at added
  split at added
  · next free =>
    rw [← Named.put_of_free free] at added
    obtain rfl := Option.some.inj added
    exact distinct_put distinct below
  · contradiction

theorem distinct_change {dotted : Bool} {enter : Origin → Entries → Option Entries}
    (keeps : ∀ origin under after, Distinct under → enter origin under = some after →
      Distinct after) {path : List String} {origin : Origin} (distinct : Distinct entries)
    (changed : entries.change dotted enter path origin = some after) : Distinct after := by
  induction path generalizing entries origin after with
  | nil => exact keeps origin entries after distinct (by simpa [change] using changed)
  | cons name path ih =>
    rw [change] at changed
    split at changed
    · obtain ⟨under, made, same⟩ := Option.bind_eq_some_iff.mp changed
      obtain rfl := Option.some.inj same
      exact distinct_put distinct (Node.distinct_table (ih distinct_nil made))
    · next found =>
      split at changed
      · contradiction
      · obtain ⟨under, made, same⟩ := Option.bind_eq_some_iff.mp changed
        obtain rfl := Option.some.inj same
        exact distinct_put distinct
          (Node.distinct_table (ih (distinct.lookup found _ rfl) made))
    · obtain ⟨under, _, same⟩ := Option.bind_eq_some_iff.mp changed
      obtain rfl := Option.some.inj same
      exact distinct_put distinct (Node.distinct_of_none rfl)
    · contradiction

theorem distinct_changeWithin {enter : Entries → Option Entries}
    (keeps : ∀ under after, Distinct under → enter under = some after → Distinct after)
    {path : List String} (distinct : Distinct entries)
    (changed : entries.changeWithin enter path = some after) : Distinct after := by
  induction path generalizing entries after with
  | nil => exact keeps entries after distinct (by simpa [changeWithin] using changed)
  | cons name path ih =>
    rw [changeWithin] at changed
    split at changed
    · obtain ⟨under, made, same⟩ := Option.bind_eq_some_iff.mp changed
      obtain rfl := Option.some.inj same
      exact distinct_put distinct (Node.distinct_braces (ih distinct_nil made))
    · next found =>
      obtain ⟨under, made, same⟩ := Option.bind_eq_some_iff.mp changed
      obtain rfl := Option.some.inj same
      exact distinct_put distinct (Node.distinct_braces (ih (distinct.lookup found _ rfl) made))
    · contradiction

theorem distinct_addWithin {path : List String} (distinct : Distinct entries)
    (below : node.Distinct) (added : entries.addWithin path name node = some after) :
    Distinct after :=
  distinct_changeWithin (fun _ _ under => distinct_add under below) distinct added

end Entries

namespace Document

variable {d after : Document} {path : List String}

theorem distinct_declare {enter : Entries → String → Option Entries}
    (keeps : ∀ under name after, Distinct under → enter under name = some after → Distinct after)
    (distinct : Distinct d.entries) (declared : d.declare path enter = some after) :
    Distinct after.entries := by
  unfold declare at declared
  split at declared
  · contradiction
  · next name _ =>
    obtain ⟨entries, changed, same⟩ := Option.bind_eq_some_iff.mp declared
    obtain rfl := Option.some.inj same
    exact Entries.distinct_change (fun _ under after => keeps under name after) distinct changed

theorem distinct_declareTable (distinct : Distinct d.entries)
    (declared : d.declareTable path = some after) : Distinct after.entries := by
  refine distinct_declare (fun under name after below entered => ?_) distinct declared
  split at entered
  · obtain rfl := Option.some.inj entered
    exact Entries.distinct_put below (Node.distinct_table distinct_nil)
  · next found =>
    obtain rfl := Option.some.inj entered
    exact Entries.distinct_put below (Node.distinct_table (below.lookup found _ rfl))
  · contradiction

theorem distinct_declareElement (distinct : Distinct d.entries)
    (declared : d.declareElement path = some after) : Distinct after.entries := by
  refine distinct_declare (fun under name after below entered => ?_) distinct declared
  split at entered
  · obtain rfl := Option.some.inj entered
    exact Entries.distinct_put below (Node.distinct_of_none rfl)
  · obtain rfl := Option.some.inj entered
    exact Entries.distinct_put below (Node.distinct_of_none rfl)
  · contradiction

theorem distinct_add (distinct : Distinct d.entries) (below : node.Distinct)
    (added : d.add path name node = some after) : Distinct after.entries := by
  obtain ⟨entries, changed, same⟩ := Option.bind_eq_some_iff.mp added
  obtain rfl := Option.some.inj same
  refine Entries.distinct_change (fun origin under after => ?_) distinct changed
  refine fun outer inner => Entries.distinct_change (fun origin under after => ?_) outer inner
  intro under filled
  split at filled
  · contradiction
  · exact Entries.distinct_add under below filled

end Document

variable {bound level : Nat} {first : Bool} {cs rest : List Char}

theorem readNumber_flat (read : readNumber cs = some (node, rest)) : node.entries? = none := by
  unfold readNumber at read
  split at read
  · obtain ⟨rfl, -⟩ := Prod.mk.inj (Option.some.inj read)
    rfl
  · obtain ⟨rfl, -⟩ := Prod.mk.inj (Option.some.inj read)
    rfl
  · obtain ⟨_, _, same⟩ := Option.map_eq_some_iff.mp read
    obtain ⟨rfl, -⟩ := Prod.mk.inj same
    rfl

/-- Only braces are read as a table in the place of a value. -/
theorem readValue_cases (read : readValue (bound + 1) level cs = some (node, rest)) :
    node.entries? = none ∨ ∃ inner entries,
      readMembers bound (level + 1) true [] inner = some (entries, rest) ∧
        node = .braces false entries := by
  rw [readValue.eq_def] at read
  simp only at read
  split at read
  · contradiction
  · split at read
    · obtain ⟨_, _, same⟩ := Option.map_eq_some_iff.mp read
      obtain ⟨rfl, -⟩ := Prod.mk.inj same
      exact .inl rfl
    · contradiction
  · split at read
    · obtain ⟨⟨entries, _⟩, members, same⟩ := Option.map_eq_some_iff.mp read
      obtain ⟨rfl, rfl⟩ := Prod.mk.inj same
      exact .inr ⟨_, entries, members, rfl⟩
    · contradiction
  · obtain ⟨rfl, -⟩ := Prod.mk.inj (Option.some.inj read)
    exact .inl rfl
  · obtain ⟨rfl, -⟩ := Prod.mk.inj (Option.some.inj read)
    exact .inl rfl
  · obtain ⟨_, _, same⟩ := Option.map_eq_some_iff.mp read
    obtain ⟨rfl, -⟩ := Prod.mk.inj same
    exact .inl rfl
  · obtain ⟨_, _, same⟩ := Option.map_eq_some_iff.mp read
    obtain ⟨rfl, -⟩ := Prod.mk.inj same
    exact .inl rfl
  · split at read
    · exact .inl (readNumber_flat read)
    · obtain ⟨_, _, same⟩ := Option.map_eq_some_iff.mp read
      obtain ⟨rfl, -⟩ := Prod.mk.inj same
      exact .inl rfl

/-- A table in braces is read by adding one value after the other. -/
theorem readMembers_cases
    (read : readMembers (bound + 1) level first entries cs = some (after, rest)) :
    after = entries ∨ ∃ inner value behind path name added,
      readValue bound level inner = some (value, behind) ∧
        entries.addWithin path name value = some added ∧
          (after = added ∨
            ∃ more, readMembers bound level false added more = some (after, rest)) := by
  rw [readMembers.eq_def] at read
  simp only at read
  split at read
  · obtain ⟨rfl, -⟩ := Prod.mk.inj (Option.some.inj read)
    exact .inl rfl
  · simp only [Option.bind_eq_bind, Option.bind_eq_some_iff] at read
    obtain ⟨_, _, _, _, ⟨value, behind⟩, inner, added, within, ends⟩ := read
    refine .inr ⟨_, value, behind, _, _, added, inner, within, ?_⟩
    split at ends
    · obtain ⟨rfl, -⟩ := Prod.mk.inj (Option.some.inj ends)
      exact .inl rfl
    · exact .inr ⟨_, ends⟩
    · contradiction

/-- Values have each name once, and reading members of a table keeps that so. -/
theorem read_distinct (bound : Nat) :
    (∀ {level : Nat} {cs rest : List Char} {node : Node},
      readValue bound level cs = some (node, rest) → node.Distinct) ∧
    ∀ {level : Nat} {first : Bool} {entries after : Entries} {cs rest : List Char},
      Distinct entries → readMembers bound level first entries cs = some (after, rest) →
        Distinct after := by
  induction bound with
  | zero => exact ⟨by simp [readValue], by simp [readMembers]⟩
  | succ bound ih =>
    obtain ⟨values, members⟩ := ih
    constructor
    · intro level cs rest node read
      obtain flat | ⟨inner, entries, inside, rfl⟩ := readValue_cases read
      · exact Node.distinct_of_none flat
      · exact Node.distinct_braces (members distinct_nil inside)
    · intro level first entries after cs rest distinct read
      obtain rfl | ⟨_, value, _, _, _, added, inner, within, ends⟩ := readMembers_cases read
      · exact distinct
      · have sofar := Entries.distinct_addWithin distinct (values inner) within
        obtain rfl | ⟨more, read⟩ := ends
        · exact sofar
        · exact members sofar read

variable {d filled : Document}

theorem readAssignment_distinct (distinct : Distinct d.entries)
    (read : readAssignment d cs = some (filled, rest)) : Distinct filled.entries := by
  simp only [readAssignment, Option.bind_eq_bind, Option.bind_eq_some_iff] at read
  obtain ⟨_, _, _, _, ⟨value, _⟩, inner, _, _, _, added, same⟩ := read
  obtain ⟨rfl, -⟩ := Prod.mk.inj (Option.some.inj same)
  exact Document.distinct_add distinct ((read_distinct _).1 inner) added

theorem readHeader_distinct (distinct : Distinct d.entries)
    (read : readHeader d cs = some (filled, rest)) : Distinct filled.entries := by
  unfold readHeader at read
  split at read
  · simp only [Option.bind_eq_bind, Option.bind_eq_some_iff] at read
    obtain ⟨_, _, _, _, _, _, _, _, _, declared, same⟩ := read
    obtain ⟨rfl, -⟩ := Prod.mk.inj (Option.some.inj same)
    exact Document.distinct_declareElement distinct declared
  · simp only [Option.bind_eq_bind, Option.bind_eq_some_iff] at read
    obtain ⟨_, _, _, _, _, _, _, declared, same⟩ := read
    obtain ⟨rfl, -⟩ := Prod.mk.inj (Option.some.inj same)
    exact Document.distinct_declareTable distinct declared

theorem readLines_distinct (distinct : Distinct d.entries)
    (read : readLines bound d cs = some filled) : Distinct filled.entries := by
  induction bound generalizing d cs with
  | zero => simp [readLines] at read
  | succ bound ih =>
    rw [readLines] at read
    split at read
    · obtain rfl := Option.some.inj read
      exact distinct
    · obtain ⟨_, _, more⟩ := Option.bind_eq_some_iff.mp read
      exact ih distinct more
    · obtain ⟨⟨d, _⟩, header, more⟩ := Option.bind_eq_some_iff.mp read
      exact ih (readHeader_distinct distinct header) more
    · split at read
      · exact ih distinct read
      · obtain ⟨⟨d, _⟩, assignment, more⟩ := Option.bind_eq_some_iff.mp read
        exact ih (readAssignment_distinct distinct assignment) more

/-- A document has each name once. -/
theorem parse?_distinct {text : String} (parsed : parse? text = some entries) :
    Distinct entries := by
  obtain ⟨d, read, rfl⟩ := Option.map_eq_some_iff.mp parsed
  exact readLines_distinct distinct_nil read

end AggregateStage.Toml
