import Mathlib.Data.List.TakeDrop
import Mathlib.Data.List.TakeWhile
import AggregateStage.Settings.Variable

/-! The grammar of the texts that variables hold, apart from any reader of it. A relation
between a text and its rest says that the text begins with something that is written and goes
on with the rest. The reader of variables takes exactly what the grammar allows. -/
namespace AggregateStage.Settings.Literal

variable {text first behind rest : List Char} {bound : Nat}

/-- Any number of blanks before the rest. -/
inductive Blanks : List Char → List Char → Prop
  | none (rest : List Char) : Blanks rest rest
  | more {c : Char} {text rest : List Char} :
      isBlank c = true → Blanks text rest → Blanks (c :: text) rest

/-- Text from behind its opening quote to behind its closing one. -/
inductive Escaped : List Char → List Char → List Char → Prop
  | close (rest : List Char) : Escaped [] ('"' :: rest) rest
  | escape {c : Char} {content text behind rest : List Char} :
      Text.readEscape text = some (c, behind) → Escaped content behind rest →
      Escaped (c :: content) ('\\' :: text) rest
  | literal {c : Char} {content text rest : List Char} :
      Text.standsForItself c = true → c ≠ '"' → c ≠ '\\' → Escaped content text rest →
      Escaped (c :: content) (c :: text) rest

/-- The name of an entry, which may be quoted, and the sign behind it. -/
inductive Name : String → List Char → List Char → Prop
  | quoted {content text inner behind rest : List Char} :
      Blanks text ('"' :: inner) → Escaped content inner behind → Blanks behind ('=' :: rest) →
      Name (String.ofList content) text rest
  | bare {name text behind rest : List Char} :
      Blanks text (name ++ behind) → name ≠ [] → (∀ c ∈ name, isNameChar c = true) →
      Blanks behind ('=' :: rest) → Name (String.ofList name) text rest

/-- What plain text does not begin with. -/
structure Plain (text : List Char) : Prop where
  all : ∀ c ∈ text, isPlain c = true
  head : ∀ c ∈ text.head?, isBlank c = false ∧ c ≠ '"' ∧ c ≠ '\''
  yes : ¬"true".toList <+: text
  no : ¬"false".toList <+: text

/-- The rest is nothing or begins with what ends a value. -/
def Closes (rest : List Char) : Prop := ∀ c ∈ rest.head?, c = ',' ∨ c = ']' ∨ c = '\x7d'

/-- What can be written. Lists and tables go from behind an opening bracket or a comma to
behind their closing bracket. -/
inductive Part where
  | value (value : Value)
  /-- A value and the blanks around it. -/
  | spaced (value : Value)
  | items (list : List Value)
  | entries (table : Table)

/-- A text that begins with a part and goes on with the rest. -/
inductive Writes : Part → List Char → List Char → Prop
  | yes (rest : List Char) :
      Writes (.value (.boolean true)) ('t' :: 'r' :: 'u' :: 'e' :: rest) rest
  | no (rest : List Char) :
      Writes (.value (.boolean false)) ('f' :: 'a' :: 'l' :: 's' :: 'e' :: rest) rest
  | quoted {content text rest : List Char} :
      Escaped content text rest → Writes (.value (.text (String.ofList content))) ('"' :: text) rest
  | character (c : Char) (rest : List Char) :
      Writes (.value (.text (String.singleton c))) ('\'' :: c :: '\'' :: rest) rest
  | plain {text rest : List Char} :
      Plain text → Closes rest →
      Writes (.value (ofPlain (Text.trim text))) (text ++ rest) rest
  | list {list : List Value} {text rest : List Char} :
      Writes (.items list) text rest → Writes (.value (.list list)) ('[' :: text) rest
  | table {table : Table} {text rest : List Char} :
      Writes (.entries table) text rest → Writes (.value (.table table)) ('\x7b' :: text) rest
  | spaced {value : Value} {text first behind rest : List Char} :
      Blanks text first → Writes (.value value) first behind → Blanks behind rest →
      Writes (.spaced value) text rest
  | noItems (rest : List Char) : Writes (.items []) (']' :: rest) rest
  | lastItem {item : Value} {text rest : List Char} :
      text.head? ≠ some ']' → Writes (.spaced item) text (']' :: rest) →
      Writes (.items [item]) text rest
  | nextItem {item : Value} {list : List Value} {text behind rest : List Char} :
      text.head? ≠ some ']' → Writes (.spaced item) text (',' :: behind) →
      Writes (.items list) behind rest → Writes (.items (item :: list)) text rest
  | noEntries (rest : List Char) : Writes (.entries []) ('\x7d' :: rest) rest
  | lastEntry {name : String} {value : Value} {text first rest : List Char} :
      Name name text first → Writes (.spaced value) first ('\x7d' :: rest) →
      Writes (.entries [(name, value)]) text rest
  | nextEntry {name : String} {value : Value} {table : Table}
      {text first behind rest : List Char} :
      Name name text first → Writes (.spaced value) first (',' :: behind) →
      Writes (.entries table) behind rest →
      Writes (.entries (if (table.lookup name).isSome then table else (name, value) :: table))
        text rest

theorem Blanks.length_le (blanks : Blanks text rest) : rest.length ≤ text.length := by
  induction blanks with
  | none => exact le_rfl
  | more _ _ ih => exact Nat.le_succ_of_le ih

theorem blanks_skip (text : List Char) : Blanks text (skipBlanks text) := by
  induction text with
  | nil => exact .none []
  | cons c text ih =>
    cases blank : isBlank c with
    | true =>
      rw [skipBlanks, List.dropWhile_cons_of_pos blank]
      exact .more blank ih
    | false =>
      rw [skipBlanks, List.dropWhile_cons_of_neg (by simp [blank])]
      exact .none _

/-- The rest begins with no blank. -/
def Solid (rest : List Char) : Prop := ∀ c ∈ rest.head?, isBlank c = false

theorem solid_cons {c : Char} (solid : isBlank c = false) : Solid (c :: rest) := by
  rintro d ⟨⟩
  exact solid

theorem Solid.skip (solid : Solid rest) : skipBlanks rest = rest := by
  cases rest with
  | nil => rfl
  | cons c rest => exact List.dropWhile_cons_of_neg (by simp [solid c rfl])

theorem solid_skip (text : List Char) : Solid (skipBlanks text) := by
  intro c head
  have not_blank := List.head?_dropWhile_not isBlank text
  rw [skipBlanks] at head
  rw [Option.mem_def.mp head] at not_blank
  simpa using not_blank

/-- Blanks are passed over up to what is none. -/
theorem Blanks.skip (blanks : Blanks text rest) : skipBlanks text = skipBlanks rest := by
  induction blanks with
  | none => rfl
  | more blank _ ih => rw [← ih, skipBlanks, List.dropWhile_cons_of_pos blank, skipBlanks]

theorem Blanks.reach (blanks : Blanks text rest) (solid : Solid rest) : skipBlanks text = rest :=
  blanks.skip.trans solid.skip

theorem readHexEscape_length {count : Nat} {c : Char}
    (read : Text.readHexEscape count text = some (c, rest)) : rest.length ≤ text.length := by
  simp only [Text.readHexEscape, Option.ite_none_right_eq_some, Option.some.injEq,
    Prod.mk.injEq] at read
  obtain ⟨-, -, rfl⟩ := read
  simp

theorem readEscape_length {c : Char} (read : Text.readEscape text = some (c, rest)) :
    rest.length < text.length := by
  unfold Text.readEscape at read
  split at read <;> first
    | (simp only [Option.some.injEq, Prod.mk.injEq] at read
       obtain ⟨-, rfl⟩ := read
       simp)
    | exact Nat.lt_succ_of_le (readHexEscape_length read)
    | contradiction

theorem Escaped.length_lt {content : List Char} (escaped : Escaped content text rest) :
    rest.length < text.length := by
  induction escaped with
  | close => exact Nat.lt_succ_self _
  | escape read _ ih =>
    have := readEscape_length read
    exact Nat.lt_succ_of_lt (ih.trans this)
  | literal _ _ _ _ ih => exact Nat.lt_succ_of_lt ih

theorem readEscapedWithin_of_escaped {content : List Char} (escaped : Escaped content text rest) :
    ∀ bound, text.length ≤ bound → Text.readEscapedWithin bound text = some (content, rest) := by
  induction escaped with
  | close =>
    rintro (_ | bound) enough
    · simp at enough
    · simp [Text.readEscapedWithin]
  | escape read _ ih =>
    rintro (_ | bound) enough
    · simp at enough
    · have shorter := readEscape_length read
      simp only [List.length_cons] at enough
      simp [Text.readEscapedWithin, read, ih bound (by omega), bind, Option.bind]
  | literal itself quote backslash _ ih =>
    rintro (_ | bound) enough
    · simp at enough
    · simp only [List.length_cons] at enough
      simp [Text.readEscapedWithin, quote, backslash, itself, ih bound (by omega)]

theorem escaped_of_readEscapedWithin {content : List Char} :
    Text.readEscapedWithin bound text = some (content, rest) → Escaped content text rest := by
  induction bound generalizing text content with
  | zero => simp [Text.readEscapedWithin]
  | succ bound ih =>
    cases text with
    | nil => simp [Text.readEscapedWithin]
    | cons c text =>
      rw [Text.readEscapedWithin]
      split
      · rintro ⟨⟩
        subst_vars
        exact .close _
      split
      · intro read
        simp only [bind, Option.bind_eq_some_iff, Prod.exists] at read
        obtain ⟨c, behind, escape, more, last, within, same⟩ := read
        cases same
        subst_vars
        exact .escape escape (ih within)
      split
      · intro read
        simp only [Option.map_eq_some_iff, Prod.exists, Prod.mk.injEq] at read
        obtain ⟨more, last, within, rfl, rfl⟩ := read
        exact .literal ‹_› ‹_› ‹_› (ih within)
      · nofun

theorem readEscaped_iff {content : List Char} :
    Text.readEscaped text = some (content, rest) ↔ Escaped content text rest :=
  ⟨escaped_of_readEscapedWithin, fun escaped => readEscapedWithin_of_escaped escaped _ le_rfl⟩

theorem nameChar_solid {c : Char} (inside : isNameChar c = true) : isBlank c = false ∧ c ≠ '"' := by
  constructor
  · rw [Bool.eq_false_iff]
    intro blank
    simp only [isBlank, Bool.or_eq_true, beq_iff_eq] at blank
    rcases blank with (((rfl | rfl) | rfl) | rfl) | rfl <;> contradiction
  · rintro rfl
    contradiction

/-- What follows a name is none of its characters. -/
theorem stops_of_blanks (blanks : Blanks text ('=' :: rest)) :
    ∀ c ∈ text.head?, isNameChar c = false := by
  rintro c head
  cases blanks with
  | none =>
    cases head
    rfl
  | more blank =>
    cases head
    rw [Bool.eq_false_iff]
    intro inside
    simp [(nameChar_solid inside).1] at blank

theorem Name.length_lt {name : String} (named : Name name text rest) :
    rest.length < text.length := by
  cases named with
  | quoted before escaped after =>
    have := before.length_le
    have := escaped.length_lt
    have := after.length_le
    simp only [List.length_cons] at *
    omega
  | bare before _ _ after =>
    have := before.length_le
    have := after.length_le
    simp only [List.length_cons, List.length_append] at *
    omega

theorem span_name {name behind : List Char} (inside : ∀ c ∈ name, isNameChar c = true)
    (stops : ∀ c ∈ behind.head?, isNameChar c = false) :
    (name ++ behind).span isNameChar = (name, behind) := by
  rw [List.span_eq_takeWhile_dropWhile, List.takeWhile_append_of_pos inside,
    List.dropWhile_append_of_pos inside]
  cases behind with
  | nil => simp
  | cons c behind =>
    have stop : ¬isNameChar c = true := by simp [stops c rfl]
    rw [List.takeWhile_cons_of_neg stop, List.dropWhile_cons_of_neg stop, List.append_nil]

theorem readName_of_name {name : String} (named : Name name text rest) :
    readName text = some (name, rest) := by
  cases named with
  | quoted before escaped after =>
    have start := before.reach (solid_cons rfl)
    have equals := after.reach (solid_cons rfl)
    simp [readName, start, readEscaped_iff.mpr escaped, equals, bind, Option.bind]
  | @bare name _ behind _ before named inside after =>
    obtain ⟨c, name, rfl⟩ := List.exists_cons_of_ne_nil named
    have solid := nameChar_solid (inside c List.mem_cons_self)
    have start : skipBlanks text = c :: (name ++ behind) := before.reach (solid_cons solid.1)
    have equals := after.reach (solid_cons rfl)
    have split := span_name inside (stops_of_blanks after)
    rw [List.cons_append] at split
    simp [readName, start, split, equals, solid.2, bind, Option.bind,
      -List.span_eq_takeWhile_dropWhile]

theorem blanks_before_sign (sign : skipBlanks behind = '=' :: rest) :
    Blanks behind ('=' :: rest) := sign ▸ blanks_skip behind

theorem name_of_readName {name : String} (read : readName text = some (name, rest)) :
    Name name text rest := by
  have before := blanks_skip text
  unfold readName at read
  split at read
  · rename_i inner quoted
    rw [quoted] at before
    simp only [bind, Option.bind_eq_some_iff, Prod.exists] at read
    obtain ⟨content, behind, escaped, sign⟩ := read
    split at sign <;> cases sign
    exact .quoted before (readEscaped_iff.mp escaped) (blanks_before_sign ‹_›)
  · rw [List.span_eq_takeWhile_dropWhile] at read
    simp only [bind] at read
    split at read
    · contradiction
    · rename_i named
      simp only [Option.bind_some] at read
      split at read <;> cases read
      rw [← List.takeWhile_append_dropWhile (p := isNameChar) (l := skipBlanks text)] at before
      refine .bare before ?_ (fun c member => List.mem_takeWhile_imp member) (blanks_before_sign ‹_›)
      simpa [List.isEmpty_iff] using named

/-- Blanks and what closes a value are apart. -/
theorem Closes.solid (closes : Closes rest) : Solid rest := by
  intro c head
  rcases closes c head with rfl | rfl | rfl <;> rfl

theorem Closes.not_plain (closes : Closes rest) : ∀ c ∈ rest.head?, isPlain c = false := by
  intro c head
  rcases closes c head with rfl | rfl | rfl <;> rfl

theorem closes_cons {c : Char} (closes : c = ',' ∨ c = ']' ∨ c = '\x7d') : Closes (c :: rest) := by
  rintro d ⟨⟩
  exact closes

theorem Writes.length_le {part : Part} (written : Writes part text rest) :
    rest.length ≤ text.length := by
  induction written with
  | yes | no | character | noItems | noEntries => simp only [List.length_cons]; omega
  | quoted escaped => exact (Nat.lt_succ_of_lt escaped.length_lt).le
  | plain => simp
  | list _ ih | table _ ih => exact Nat.le_succ_of_le ih
  | spaced before _ after ih =>
    have := before.length_le
    have := after.length_le
    omega
  | lastItem _ _ ih => exact (Nat.le_succ _).trans ih
  | nextItem _ _ _ first more =>
    simp only [List.length_cons] at first
    omega
  | lastEntry name _ ih =>
    have := name.length_lt
    simp only [List.length_cons] at ih
    omega
  | nextEntry name _ _ first more =>
    have := name.length_lt
    simp only [List.length_cons] at first
    omega

theorem Writes.solid {value : Value} (written : Writes (.value value) text rest) : Solid text := by
  cases written with
  | @plain text _ plain closes =>
    cases text with
    | nil => exact closes.solid
    | cons c text => exact solid_cons (plain.head c rfl).1
  | _ => exact solid_cons rfl

/-- Plain text up to where it is closed is all of the plain text there. -/
theorem plain_split (all : ∀ c ∈ text, isPlain c = true) (closes : Closes rest) :
    (text ++ rest).takeWhile isPlain = text ∧ (text ++ rest).dropWhile isPlain = rest := by
  rw [List.takeWhile_append_of_pos all, List.dropWhile_append_of_pos all]
  cases rest with
  | nil => simp
  | cons c rest =>
    have stop : ¬isPlain c = true := by simp [closes.not_plain c rfl]
    rw [List.takeWhile_cons_of_neg stop, List.dropWhile_cons_of_neg stop, List.append_nil]
    exact ⟨rfl, rfl⟩

/-- A plain word at the beginning lies within the plain text. -/
theorem prefix_of_plain {word more : List Char} (all : ∀ c ∈ text, isPlain c = true)
    (closes : Closes rest) (inside : ∀ c ∈ word, isPlain c = true)
    (same : text ++ rest = word ++ more) : word <+: text := by
  have taken := (plain_split all closes).1
  rw [same, List.takeWhile_append_of_pos inside] at taken
  exact ⟨_, taken⟩

/-- Where plain text stands, the reader takes it as such. -/
theorem read_plain {before : List Char} (plain : Plain text) (closes : Closes rest)
    (start : skipBlanks before = text ++ rest) (bound : Nat) :
    read (bound + 1) before = some (ofPlain (Text.trim text), skipBlanks rest) := by
  have split := plain_split plain.all closes
  have head : ∀ c more, text ++ rest = c :: more → c ≠ '"' ∧ c ≠ '\'' ∧ c ≠ '[' ∧ c ≠ '\x7b' := by
    intro c more same
    cases text with
    | nil =>
      rcases closes c (by rw [List.nil_append] at same; rw [same]; rfl) with rfl | rfl | rfl <;>
        decide
    | cons d text =>
      obtain ⟨rfl, -⟩ := List.cons.inj same
      have inside := plain.all d List.mem_cons_self
      refine ⟨(plain.head d rfl).2.1, (plain.head d rfl).2.2, ?_, ?_⟩ <;> rintro rfl <;>
        contradiction
  have word (word : List Char) {more : List Char} (inside : ∀ c ∈ word, isPlain c = true)
      (absent : ¬word <+: text) (same : text ++ rest = word ++ more) : False :=
    absent (prefix_of_plain plain.all closes inside same)
  rw [read, start]
  split
  · exact (word "true".toList (List.all_eq_true.mp (by decide)) plain.yes ‹_›).elim
  · exact (word "false".toList (List.all_eq_true.mp (by decide)) plain.no ‹_›).elim
  · exact absurd rfl (head _ _ ‹_›).2.2.2
  · exact absurd rfl (head _ _ ‹_›).2.2.1
  · exact absurd rfl (head _ _ ‹_›).1
  · exact absurd rfl (head _ _ ‹_›).2.1
  · exact absurd rfl (head _ _ ‹_›).2.1
  · simp [split.1, split.2, bind]

/-- What the reader makes of a part, given a bound for the text before it. -/
def Part.ReadFrom (text rest : List Char) : Part → Prop
  | .value v => ∀ bound before, skipBlanks before = text → 2 * before.length + 1 ≤ bound →
      read bound before = some (v, skipBlanks rest)
  | .spaced v => Solid rest → ∀ bound, 2 * text.length + 1 ≤ bound →
      read bound text = some (v, rest)
  | .items list => ∀ bound, 2 * text.length + 2 ≤ bound → readItems bound text = some (list, rest)
  | .entries table =>
    ∀ bound, 2 * text.length + 2 ≤ bound → readEntries bound text = some (table, rest)

theorem length_skip (text : List Char) : (skipBlanks text).length ≤ text.length :=
  (blanks_skip text).length_le

/-- No name begins with a closing brace. -/
theorem Name.not_close {name : String} (named : Name name text rest) :
    ∀ more, text ≠ '\x7d' :: more := by
  rintro more rfl
  cases named with
  | quoted before =>
    cases before with
    | more blank => contradiction
  | bare before some inside =>
    obtain ⟨c, name, rfl⟩ := List.exists_cons_of_ne_nil some
    have first := inside c List.mem_cons_self
    cases before with
    | none => contradiction
    | more blank => contradiction

theorem Writes.readFrom {part : Part} (written : Writes part text rest) :
    part.ReadFrom text rest := by
  induction written with
  | yes | no | character =>
    rintro (_ | bound) before start enough
    · simp at enough
    · simp [read, start, bind]
  | quoted escaped =>
    rintro (_ | bound) before start enough
    · simp at enough
    · simp [read, start, readEscaped_iff.mpr escaped, bind]
  | plain plain closes =>
    rintro (_ | bound) before start enough
    · simp at enough
    · exact read_plain plain closes start bound
  | list _ ih | table _ ih =>
    rintro (_ | bound) before start enough
    · simp at enough
    · have shorter := length_skip before
      rw [start, List.length_cons] at shorter
      simp [read, start, ih bound (by omega), bind]
  | spaced before written after ih =>
    intro solid bound enough
    rw [← after.reach solid]
    exact ih bound _ (before.reach written.solid) enough
  | noItems =>
    rintro (_ | bound) enough
    · simp at enough
    · rw [readItems]
  | @lastItem item text rest open_ _ ih =>
    rintro (_ | bound) enough
    · simp at enough
    · have item := ih (solid_cons rfl) bound (by omega)
      rw [readItems]
      · simp [item, bind]
      · rintro rest rfl
        exact open_ rfl
  | @nextItem item list text behind rest open_ written _ first more =>
    rintro (_ | bound) enough
    · simp at enough
    · have shorter := written.length_le
      rw [List.length_cons] at shorter
      have item := first (solid_cons rfl) bound (by omega)
      rw [readItems]
      · simp [item, more bound (by omega), bind]
      · rintro rest rfl
        exact open_ rfl
  | noEntries =>
    rintro (_ | bound) enough
    · simp at enough
    · rw [readEntries]
  | lastEntry name _ ih =>
    rintro (_ | bound) enough
    · simp at enough
    · have shorter := name.length_lt
      have value := ih (solid_cons rfl) bound (by omega)
      rw [readEntries]
      · simp [readName_of_name name, value, bind]
      · exact name.not_close
  | nextEntry name written _ first more =>
    rintro (_ | bound) enough
    · simp at enough
    · have shorter := name.length_lt
      have shorter' := written.length_le
      rw [List.length_cons] at shorter'
      have value := first (solid_cons rfl) bound (by omega)
      rw [readEntries]
      · simp [readName_of_name name, value, more bound (by omega), bind]
      · exact name.not_close

theorem plain_take {c : Char} (member : c ∈ text.takeWhile isPlain) : isPlain c = true :=
  List.mem_takeWhile_imp member

theorem head_drop (text : List Char) :
    ∀ c ∈ (text.dropWhile isPlain).head?, isPlain c = false := by
  intro c head
  have stop := List.head?_dropWhile_not isPlain text
  rw [Option.mem_def.mp head] at stop
  simpa using stop

theorem blank_plain {c : Char} (blank : isBlank c = true) : isPlain c = true := by
  simp only [isBlank, Bool.or_eq_true, beq_iff_eq] at blank
  rcases blank with (((rfl | rfl) | rfl) | rfl) | rfl <;> rfl

theorem solid_drop (text : List Char) : Solid (text.dropWhile isPlain) := by
  intro c head
  rw [Bool.eq_false_iff]
  intro blank
  have stop := head_drop text c head
  rw [blank_plain blank] at stop
  contradiction

/-- What the reader takes as plain text is plain. -/
theorem writes_plain (solid : Solid text) (closes : Closes (text.dropWhile isPlain))
    (yes : ∀ more, text = 't' :: 'r' :: 'u' :: 'e' :: more → False)
    (no : ∀ more, text = 'f' :: 'a' :: 'l' :: 's' :: 'e' :: more → False)
    (quote : ∀ more, text = '"' :: more → False)
    (apostrophe : ∀ more, text = '\'' :: more → False) :
    Writes (.value (ofPlain (Text.trim (text.takeWhile isPlain)))) text
      (text.dropWhile isPlain) := by
  have part : text.takeWhile isPlain <+: text := List.takeWhile_prefix isPlain
  have head : ∀ c ∈ (text.takeWhile isPlain).head?, ∃ more, text = c :: more := by
    intro c head
    obtain ⟨more, split⟩ := List.head?_eq_some_iff.mp head
    obtain ⟨behind, rfl⟩ := split ▸ part
    exact ⟨_, rfl⟩
  have plain : Plain (text.takeWhile isPlain) := by
    refine ⟨fun c => plain_take, fun c first => ?_, fun inside => ?_, fun inside => ?_⟩
    · obtain ⟨more, split⟩ := head c first
      refine ⟨solid c (by rw [split]; rfl), ?_, ?_⟩
      · rintro rfl
        exact quote more split
      · rintro rfl
        exact apostrophe more split
    · obtain ⟨more, split⟩ := inside.trans part
      exact yes more split.symm
    · obtain ⟨more, split⟩ := inside.trans part
      exact no more split.symm
  have written := Writes.plain plain closes
  rwa [List.takeWhile_append_dropWhile] at written

/-- What the reader takes is written, with a bound as it stands. -/
structure Taken (bound : Nat) : Prop where
  value {text rest : List Char} {v : Value} : read bound text = some (v, rest) → Closes rest →
    Writes (.spaced v) text rest
  items {text rest : List Char} {list : List Value} :
    readItems bound text = some (list, rest) → Writes (.items list) text rest
  entries {text rest : List Char} {table : Table} :
    readEntries bound text = some (table, rest) → Writes (.entries table) text rest

theorem writes_value {v : Value} (below : Taken bound)
    (taken : read (bound + 1) text = some (v, rest)) (closes : Closes rest) :
    Writes (.spaced v) text rest := by
  have before := blanks_skip text
  have spaced {behind : List Char} (written : Writes (.value v) (skipBlanks text) behind)
      (after : skipBlanks behind = rest) : Writes (.spaced v) text rest :=
    .spaced before written (after ▸ blanks_skip behind)
  rw [read] at taken
  split at taken
  · rename_i start
    cases taken
    exact spaced (start ▸ .yes _) rfl
  · rename_i start
    cases taken
    exact spaced (start ▸ .no _) rfl
  · rename_i start
    simp only [bind, Option.bind_eq_some_iff, Option.map_eq_some_iff, Prod.exists] at taken
    obtain ⟨_, behind, ⟨table, _, entries, rfl, rfl⟩, ⟨⟩⟩ := taken
    exact spaced (start ▸ .table (below.entries entries)) rfl
  · rename_i start
    simp only [bind, Option.bind_eq_some_iff, Option.map_eq_some_iff, Prod.exists] at taken
    obtain ⟨_, behind, ⟨list, _, items, rfl, rfl⟩, ⟨⟩⟩ := taken
    exact spaced (start ▸ .list (below.items items)) rfl
  · rename_i start
    simp only [bind, Option.bind_eq_some_iff, Option.map_eq_some_iff, Prod.exists] at taken
    obtain ⟨_, behind, ⟨content, _, escaped, rfl, rfl⟩, ⟨⟩⟩ := taken
    exact spaced (start ▸ .quoted (readEscaped_iff.mp escaped)) rfl
  · rename_i start
    cases taken
    exact spaced (start ▸ .character _ _) rfl
  · contradiction
  · cases taken
    have drop := (solid_drop (skipBlanks text)).skip
    exact spaced (writes_plain (solid_skip text) (drop ▸ closes) ‹_› ‹_› ‹_› ‹_›) rfl

theorem writes_items {list : List Value} (below : Taken bound)
    (taken : readItems (bound + 1) text = some (list, rest)) : Writes (.items list) text rest := by
  by_cases close : ∃ more, text = ']' :: more
  · obtain ⟨more, rfl⟩ := close
    rw [readItems] at taken
    cases taken
    exact .noItems _
  · have opens : text.head? ≠ some ']' := by
      intro head
      obtain ⟨more, same⟩ := List.head?_eq_some_iff.mp head
      exact close ⟨more, same⟩
    rw [readItems] at taken
    case neg.x_2 => exact fun more same => close ⟨more, same⟩
    simp only [bind, Option.bind_eq_some_iff, Prod.exists] at taken
    obtain ⟨item, behind, first, taken⟩ := taken
    split at taken
    · cases taken
      exact .lastItem opens (below.value first (closes_cons (by simp)))
    · simp only [Option.map_eq_some_iff, Prod.exists] at taken
      obtain ⟨list, _, more, ⟨⟩⟩ := taken
      exact .nextItem opens (below.value first (closes_cons (by simp))) (below.items more)
    · contradiction

theorem writes_entries {table : Table} (below : Taken bound)
    (taken : readEntries (bound + 1) text = some (table, rest)) :
    Writes (.entries table) text rest := by
  by_cases close : ∃ more, text = '\x7d' :: more
  · obtain ⟨more, rfl⟩ := close
    rw [readEntries] at taken
    cases taken
    exact .noEntries _
  · rw [readEntries] at taken
    case neg.x_2 => exact fun more same => close ⟨more, same⟩
    simp only [bind, Option.bind_eq_some_iff, Prod.exists] at taken
    obtain ⟨name, inner, named, v, behind, first, taken⟩ := taken
    have name := name_of_readName named
    split at taken
    · cases taken
      exact .lastEntry name (below.value first (closes_cons (by simp)))
    · simp only [Option.map_eq_some_iff, Prod.exists] at taken
      obtain ⟨list, _, more, ⟨⟩⟩ := taken
      exact .nextEntry name (below.value first (closes_cons (by simp))) (below.entries more)
    · contradiction

theorem taken_within (bound : Nat) : Taken bound := by
  induction bound with
  | zero => exact ⟨by simp [read], by simp [readItems], by simp [readEntries]⟩
  | succ bound below => exact ⟨writes_value below, writes_items below, writes_entries below⟩

/-- The text as a whole is a value and blanks around it. -/
def Spells (text : String) (v : Value) : Prop := Writes (.spaced v) text.toList []

theorem closes_nil : Closes [] := by
  rintro c ⟨⟩

/-- The reader tells what a text spells. -/
theorem value_of_spells {text : String} {v : Value} (spells : Spells text v) : value text = v := by
  have taken := spells.readFrom closes_nil.solid (2 * text.length + 2)
    (by rw [String.length_toList]; omega)
  rw [value, taken]

theorem value_of_not_spells {text : String} (nothing : ∀ v, ¬Spells text v) :
    value text = .text text := by
  unfold value
  split
  · rename_i taken
    exact absurd ((taken_within _).value taken closes_nil) (nothing _)
  · rfl

end AggregateStage.Settings.Literal
