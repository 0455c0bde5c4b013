import AggregateStage.Proofs.Settings.Literal
import AggregateStage.Proofs.Settings.Misfit

/-! Settings that are texts, given by the environment. A variable's text is read as a value
first, so that it arrives as it is only where it does not spell something else. -/
namespace AggregateStage.Settings

open Literal

/-- The settings that are texts. -/
inductive TextKey where
  | host
  | address
  | role
  deriving DecidableEq, Repr

namespace TextKey

def key : TextKey → Key
  | .host => .host
  | .address => .address
  | .role => .role

def get (s : Settings) : TextKey → String
  | .host => s.server.host
  | .address => s.broker.address
  | .role => s.broker.role

/-- The variable of a setting. -/
def variableName : TextKey → String
  | .host => "SLUICE_SERVER__HOST"
  | .address => "SLUICE_BROKER__ADDRESS"
  | .role => "SLUICE_BROKER__ROLE"

theorem variablePath?_variableName (k : TextKey) : variablePath? k.variableName = some k.key.path := by
  cases k <;> decide +kernel

end TextKey

/-- What reads as a number where plain text stands. -/
def IsNumber (text : List Char) : Prop :=
  text.contains '.' ∧ (Decimal.Numeral.parse? text).isSome ∨
    (Decimal.unsigned? (Nat.pow 2 64) text).isSome ∨
    (Decimal.signed? (-(Nat.pow 2 63 : Int)) (Nat.pow 2 63) text).isSome

instance (text : List Char) : Decidable (IsNumber text) := inferInstanceAs (Decidable (_ ∨ _))

/-- Text without blanks around it that begins with no quote or opening bracket and is neither a
truth value nor a number. -/
structure Unmarked (s : String) : Prop where
  neat : Text.trim s.toList = s.toList
  head : ∀ c ∈ s.toList.head?, c ≠ '"' ∧ c ≠ '\'' ∧ c ≠ '[' ∧ c ≠ '\x7b'
  word : s ≠ "true" ∧ s ≠ "false"
  number : ¬IsNumber s.toList

theorem ofPlain_of_not_number {text : List Char} (not_number : ¬IsNumber text) :
    ofPlain text = .text (String.ofList text) := by
  obtain ⟨real, unsigned, signed⟩ : ¬(text.contains '.' ∧ (Decimal.Numeral.parse? text).isSome) ∧
      (Decimal.unsigned? (Nat.pow 2 64) text) = none ∧
      (Decimal.signed? (-(Nat.pow 2 63 : Int)) (Nat.pow 2 63) text) = none := by
    simpa [IsNumber, not_or] using not_number
  have nothing : (if text.contains '.' then Decimal.Numeral.parse? text else none) = none := by
    split
    · simpa using fun some => real ⟨‹_›, some⟩
    · rfl
  rw [ofPlain, nothing, unsigned, signed]

/-- Blanks of the reader are blanks of any text. -/
theorem text_blank {c : Char} (blank : Literal.isBlank c = true) : Text.isBlank c = true := by
  simp only [Literal.isBlank, Bool.or_eq_true, beq_iff_eq] at blank
  rcases blank with (((rfl | rfl) | rfl) | rfl) | rfl <;> rfl

theorem head_of_dropWhile_eq {text : List Char} (same : text.dropWhile Text.isBlank = text) :
    ∀ c ∈ text.head?, Text.isBlank c = false := by
  intro c head
  have stop := List.head?_dropWhile_not Text.isBlank text
  rw [same, Option.mem_def.mp head] at stop
  simpa using stop

/-- Text that trimming leaves as it is neither begins nor ends with a blank. -/
theorem neat_ends {text : List Char} (neat : Text.trim text = text) :
    (∀ c ∈ text.head?, Text.isBlank c = false) ∧ ∀ c ∈ text.getLast?, Text.isBlank c = false := by
  have lengths := congrArg List.length neat
  rw [Text.trim, List.length_reverse] at lengths
  have second := (List.dropWhile_sublist (l := (text.dropWhile Text.isBlank).reverse)
    Text.isBlank).length_le
  rw [List.length_reverse] at second
  have first : text.dropWhile Text.isBlank = text :=
    (List.dropWhile_suffix Text.isBlank).eq_of_length_le (by omega)
  refine ⟨head_of_dropWhile_eq first, ?_⟩
  rw [Text.trim, first, List.reverse_eq_iff] at neat
  rw [List.getLast?_eq_head?_reverse]
  exact head_of_dropWhile_eq neat

theorem Literal.Blanks.all {text : List Char} (blanks : Blanks text []) :
    ∀ c ∈ text, Literal.isBlank c = true := by
  generalize nothing : ([] : List Char) = rest at blanks
  induction blanks with
  | none => simp [← nothing]
  | more blank _ ih =>
    intro c member
    rcases List.mem_cons.mp member with rfl | member
    · exact blank
    · exact ih nothing c member

theorem nil_of_neat {text rest : List Char} (neat : Text.trim (text ++ rest) = text ++ rest)
    (blanks : Blanks rest []) : rest = [] := by
  by_contra some
  have last : rest.getLast some ∈ (text ++ rest).getLast? := by
    rw [List.getLast?_append, List.getLast?_eq_some_getLast some]
    rfl
  have solid := (neat_ends neat).2 _ last
  rw [text_blank (blanks.all _ (List.getLast_mem some))] at solid
  contradiction

/-- Unmarked text spells itself, if it spells anything. -/
theorem Unmarked.spells {s : String} (unmarked : Unmarked s) {v : Value} (spells : Spells s v) :
    v = .text s := by
  obtain ⟨neat, head, word, number⟩ := unmarked
  unfold Spells at spells
  generalize text : s.toList = cs at spells neat head number
  cases spells with
  | @spaced _ _ first behind _ before written after =>
    have start : first = cs := by
      cases before with
      | none => rfl
      | more blank =>
        have solid := (neat_ends neat).1 _ rfl
        rw [text_blank blank] at solid
        contradiction
    subst start
    have whole (word : List Char) (split : first = word ++ behind)
        (not_word : s ≠ String.ofList word) : False := by
      rw [split] at neat
      rw [nil_of_neat neat after, List.append_nil] at split
      exact not_word (by rw [← split, ← text, String.ofList_toList])
    cases written with
    | yes => exact (whole "true".toList rfl word.1).elim
    | no => exact (whole "false".toList rfl word.2).elim
    | quoted => exact absurd rfl (head _ rfl).1
    | character => exact absurd rfl (head _ rfl).2.1
    | list => exact absurd rfl (head _ rfl).2.2.1
    | table => exact absurd rfl (head _ rfl).2.2.2
    | plain plain closes =>
      have rest := nil_of_neat neat after
      subst rest
      rw [List.append_nil] at neat number text
      rw [neat, ofPlain_of_not_number number, ← text, String.ofList_toList]

/-- The last variable that gives a setting, with no layer above it that gives the setting and
with nothing of the wrong type anywhere else. -/
structure Sources.GivenBy (sources : Sources) (k : Key) (name text : String)
    (before after : List (String × String)) : Prop where
  environment : sources.environment = before ++ (name, text) :: after
  place : variablePath? name = some k.path
  others : ∀ entry ∈ before ++ after, (variableTable entry).Fits
  last : ∀ entry ∈ after, (variableTable entry).given? k = none
  file : sources.file = none
  arguments : sources.arguments.given? k = none

namespace Sources.GivenBy

variable {sources : Sources} {k : Key} {name text : String} {before after : List (String × String)}

theorem environmentGiven? (given : sources.GivenBy k name text before after) {content : k.Content}
    (read : k.read (Literal.value text) = .ok content) :
    environmentGiven? sources.environment k = some content := by
  have own : (variableTable (name, text)).given? k = some content := by
    apply Table.given?_of_gives
    rw [gives_variable_at text given.place, read]
    rfl
  have none_after : after.reverse.findSome? (fun entry => (variableTable entry).given? k) =
      none := by
    rw [List.findSome?_eq_none_iff]
    exact fun entry member => given.last entry (List.mem_reverse.mp member)
  rw [given.environment, Settings.environmentGiven?, List.reverse_append, List.reverse_cons,
    List.findSome?_append, List.findSome?_append, none_after, List.findSome?_singleton, own]
  rfl

theorem loads (given : sources.GivenBy k name text before after) {content : k.Content}
    (read : k.read (Literal.value text) = .ok content) :
    ∃ settings, sources.settings = .ok settings ∧ settings.get k = content := by
  have proper : sources.Proper := by
    refine ⟨fun entry member => ?_, fun text found => ?_⟩
    · rw [given.environment] at member
      rcases List.mem_append.mp member with earlier | later
      · exact given.others entry (List.mem_append_left _ earlier)
      rcases List.mem_cons.mp later with rfl | later
      · rw [variable_fits_iff text given.place, read]
        rfl
      · exact given.others entry (List.mem_append_right _ later)
    · rw [given.file] at found
      contradiction
  obtain ⟨loaded, loads, each⟩ := proper.loads
  refine ⟨_, settings_of_load loads, ?_⟩
  have uppermost := each k
  rw [uppermost?_eq, given.arguments, given?, given.file, Option.bind_none, Option.bind_none,
    Option.none_or, given?, given.environmentGiven? read] at uppermost
  exact (Option.some.inj uppermost).symm

theorem fails (given : sources.GivenBy k name text before after) (textual : k ∈ [Key.host, .address, .role])
    (other : ∀ t, Literal.value text ≠ .text t) :
    sources.settings = .error (.wrongType k.path (Literal.value text) .text) := by
  have misfits : (ofEnvironment (before ++ (name, text) :: after)).Misfits k _ :=
    misfits_ofEnvironment given.place given.others given.last
  rw [← given.environment] at misfits
  have whole := misfits.over_fits (ofEnvironment_distinct _) fits_defaults
  rw [settings, given.file, load, Table.ofTable_of_misfits whole textual other]
  rfl

end Sources.GivenBy

theorem TextKey.read_text (k : TextKey) (text : String) :
    ∃ content, k.key.read (.text text) = .ok content ∧
      ∀ settings : Settings, settings.get k.key = content → k.get settings = text := by
  cases k <;> exact ⟨text, rfl, fun _ same => same⟩

/-- A text that the environment gives arrives as it is if it is unmarked, whatever stands within
it, and wherever else it spells no value. A quoted text or character arrives without its
quotes. A truth value, a number, a list or a table is of the wrong type, and nothing loads. -/
theorem text_variable_arrives (k : TextKey) (sources : Sources) (name text : String)
    (before after : List (String × String))
    (given : sources.GivenBy k.key name text before after) :
    (Unmarked text ∨ (∀ v, ¬Spells text v) →
      ∃ settings, sources.settings = .ok settings ∧ k.get settings = text) ∧
    (∀ content, Spells text (.text content) →
      ∃ settings, sources.settings = .ok settings ∧ k.get settings = content) ∧
    ∀ v, Spells text v → (∀ content, v ≠ .text content) →
      sources.settings = .error (.wrongType k.key.path v .text) := by
  have arrives {content : String} (reads : Literal.value text = .text content) :
      ∃ settings, sources.settings = .ok settings ∧ k.get settings = content := by
    obtain ⟨own, read, same⟩ := k.read_text content
    obtain ⟨settings, loads, found⟩ := given.loads (reads ▸ read)
    exact ⟨settings, loads, same settings found⟩
  refine ⟨fun plain => arrives ?_, fun content spells => arrives (value_of_spells spells), ?_⟩
  · by_cases some : ∃ v, Spells text v
    · obtain ⟨v, spells⟩ := some
      rcases plain with unmarked | nothing
      · rw [value_of_spells spells, unmarked.spells spells]
      · exact absurd spells (nothing v)
    · exact value_of_not_spells (not_exists.mp some)
  · intro v spells other
    have textual : k.key ∈ [Key.host, .address, .role] := by cases k <;> decide
    rw [← value_of_spells spells] at other ⊢
    exact given.fails textual other

/-- An environment with a single variable, and nothing else. -/
def alone (name text : String) : Sources := ⟨[(name, text)], none, fun _ => none, .none⟩

theorem alone_given (k : TextKey) (text : String) :
    (alone k.variableName text).GivenBy k.key k.variableName text [] [] where
  environment := rfl
  place := k.variablePath?_variableName
  others := by simp
  last := by simp
  file := rfl
  arguments := by cases k <;> rfl

theorem spells_quoted : Spells "\"true\"" (.text "true") :=
  .spaced (.none _) (.quoted (.literal rfl (by decide) (by decide) (.literal rfl (by decide)
    (by decide) (.literal rfl (by decide) (by decide) (.literal rfl (by decide) (by decide)
      (.close _)))))) (.none _)

theorem spells_number : Spells "123" (.unsigned 123) := by
  have plain : Plain "123".toList := by
    have first : "123".toList.head? = some '1' := by decide
    refine ⟨List.all_eq_true.mp (by decide), ?_, by decide, by decide⟩
    rw [first]
    rintro _ ⟨⟩
    decide
  have number : ofPlain (Text.trim "123".toList) = .unsigned 123 := by
    have digits : Decimal.unsigned? (Nat.pow 2 64) (Text.trim "123".toList) = some 123 := by
      decide +kernel
    rw [ofPlain, if_neg (by decide +kernel), digits]
  have written := Writes.plain plain closes_nil
  rw [number] at written
  exact .spaced (.none _) written (.none _)

/-- Separators do no harm, quotes go, and digits are no text. -/
theorem text_variables_alone :
    (∃ settings, (alone "SLUICE_SERVER__HOST" "a, b = [c]").settings = .ok settings ∧
      settings.server.host = "a, b = [c]") ∧
    (∃ settings, (alone "SLUICE_BROKER__ADDRESS" "\"true\"").settings = .ok settings ∧
      settings.broker.address = "true") ∧
    (alone "SLUICE_BROKER__ROLE" "123").settings =
      .error (.wrongType ["broker", "role"] (.unsigned 123) .text) := by
  have unmarked : Unmarked "a, b = [c]" := by
    have first : "a, b = [c]".toList.head? = some 'a' := by decide
    refine ⟨by decide +kernel, ?_, by decide, by decide +kernel⟩
    rw [first]
    rintro _ ⟨⟩
    decide
  obtain ⟨host, -, -⟩ := text_variable_arrives .host _ _ _ [] [] (alone_given .host "a, b = [c]")
  obtain ⟨-, address, -⟩ :=
    text_variable_arrives .address _ _ _ [] [] (alone_given .address "\"true\"")
  obtain ⟨-, -, role⟩ := text_variable_arrives .role _ _ _ [] [] (alone_given .role "123")
  exact ⟨host (.inl unmarked), address _ spells_quoted, role _ spells_number (by nofun)⟩

/-- Digits alone are a number, so that they do not arrive as a text. -/
theorem digits_do_not_arrive : ¬∀ (k : TextKey) (text : String), text ≠ "" →
    (∀ c ∈ text.toList, 0x20 ≤ c.toNat ∧ c.toNat ≠ 0x7f) → Text.trim text.toList = text.toList →
    ∃ settings, (alone k.variableName text).settings = .ok settings ∧ k.get settings = text := by
  intro claim
  have printable : ∀ c ∈ "123".toList, 0x20 ≤ c.toNat ∧ c.toNat ≠ 0x7f := by
    have spelled : "123".toList = ['1', '2', '3'] := by decide
    rw [spelled]
    simp
  obtain ⟨settings, loads, -⟩ := claim .role "123" (by decide) printable (by decide)
  have fails : (alone TextKey.role.variableName "123").settings.isOk = false := by decide +kernel
  rw [loads] at fails
  exact Bool.noConfusion fails

end AggregateStage.Settings
