import AggregateStage.Json.Skip
import AggregateStage.Proofs.Json.Numeral

/-! Passing over a value takes exactly a value of the grammar, to any depth. -/
namespace AggregateStage.Json

variable {text first rest : List Char} {part : Part} {document : Document} {bound : Nat}

/-- What is due where a part begins. -/
def Part.expectation : Part → Expectation
  | .value _ => .value
  | .elements _ => .elements
  | .moreElements _ => .moreElements
  | .members _ => .members
  | .moreMembers _ => .moreMembers

/-- The first character of a value. -/
inductive Document.Begins : Document → Char → Prop
  | null : Begins .null 'n'
  | yes : Begins (.boolean true) 't'
  | no : Begins (.boolean false) 'f'
  | number {n : Numeral} {c : Char} : c = '-' ∨ Decimal.isDigit c = true → Begins (.number n) c
  | string {units : List Nat} : Begins (.string units) '"'
  | array {list : List Document} : Begins (.array list) '['
  | object {list : List (List Nat × Document)} : Begins (.object list) '\x7b'

theorem Numeral.Written.begins {n : Numeral} (written : n.Written text rest) :
    ∃ c more, text = c :: more ∧ (c = '-' ∨ Decimal.isDigit c = true) := by
  obtain ⟨whole, _, _⟩ := written
  cases n.negative with
  | true => exact ⟨'-', _, rfl, .inl rfl⟩
  | false =>
    have all := whole.allDigits
    obtain ⟨digit, more, spelled⟩ := List.exists_cons_of_ne_nil all.1
    rw [spelled] at all ⊢
    exact ⟨digit, _, rfl, .inr (all.2 digit (by simp))⟩

theorem Writes.begins (written : Writes (.value document) text rest) :
    ∃ c more, text = c :: more ∧ document.Begins c := by
  cases written with
  | null => exact ⟨_, _, rfl, .null⟩
  | yes => exact ⟨_, _, rfl, .yes⟩
  | no => exact ⟨_, _, rfl, .no⟩
  | number numeral =>
    obtain ⟨c, more, split, begins⟩ := numeral.begins
    exact ⟨c, more, split, .number begins⟩
  | string => exact ⟨_, _, rfl, .string⟩
  | array => exact ⟨_, _, rfl, .array⟩
  | object => exact ⟨_, _, rfl, .object⟩

/-- A value begins with no blank and no bracket or comma that could end a list. -/
theorem Document.Begins.solid {c : Char} (begins : document.Begins c) :
    isBlank c = false ∧ c ≠ ']' ∧ c ≠ '\x7d' ∧ c ≠ ',' ∧ c ≠ ':' := by
  cases begins with
  | number digit =>
    rcases digit with rfl | digit
    · decide
    · have other (d : Char) (no : Decimal.isDigit d = false) : c ≠ d := by
        rintro rfl
        simp [digit] at no
      refine ⟨?_, other _ rfl, other _ rfl, other _ rfl, other _ rfl⟩
      simp [isBlank, other ' ' rfl, other '\t' rfl, other '\n' rfl, other '\r' rfl]
  | _ => decide

/-- Blanks before a value are passed over to its first character. -/
theorem Writes.reach (written : Writes (.value document) first rest) (blanks : Blanks text first) :
    skipBlanks text = first := by
  obtain ⟨c, more, rfl, begins⟩ := written.begins
  exact blanks.reach begins.solid.1

/-- Each part takes at least one character. -/
theorem Quoted.length_lt {units : List Nat} (quoted : Quoted units text rest) :
    rest.length < text.length := by
  induction quoted with
  | close => simp
  | literal _ _ _ _ ih => simp only [List.length_cons]; omega
  | short _ _ ih => simp only [List.length_cons]; omega
  | unit _ _ _ _ _ ih => simp only [List.length_cons]; omega

theorem Numeral.Written.length_lt {n : Numeral} (written : n.Written text rest) :
    rest.length < text.length := by
  obtain ⟨whole, _, _⟩ := written
  have some := List.length_pos_iff.mpr whole.allDigits.1
  simp only [List.length_append]
  omega

theorem Name.length_lt {units : List Nat} (name : Name units text rest) :
    rest.length < text.length := by
  obtain ⟨before, quoted, behind⟩ := name
  have := before.length_le
  have := quoted.length_lt
  have := behind.length_le
  simp only [List.length_cons] at *
  omega

theorem Writes.length_lt (written : Writes part text rest) : rest.length < text.length := by
  induction written with
  | null | yes | no => simp only [List.length_cons]; omega
  | number numeral => exact numeral.length_lt
  | string quoted => exact Nat.lt_succ_of_lt quoted.length_lt
  | array _ ih | object _ ih => exact Nat.lt_succ_of_lt ih
  | noElements blanks | endElements blanks | noMembers blanks | endMembers blanks =>
    exact blanks.length_le
  | elements blanks _ _ value more =>
    have := blanks.length_le
    omega
  | nextElement blanks _ ih | nextMember blanks _ ih =>
    have := blanks.length_le
    simp only [List.length_cons] at this
    omega
  | members name blanks _ _ value more =>
    have := name.length_lt
    have := blanks.length_le
    omega

theorem skipName_of_name {units : List Nat} (name : Name units text rest) :
    skipName text = .ok rest := by
  obtain ⟨before, quoted, behind⟩ := name
  simp [skipName, before.reach rfl, skipString_of_quoted quoted, behind.reach rfl, bind, Except.bind]

/-- What follows an element or a member goes on with no numeral. -/
theorem stops_of_blanks {c : Char} (blanks : Blanks text (c :: rest))
    (mark : c = ',' ∨ c = ']' ∨ c = '\x7d') : Stops text := by
  intro d head
  cases blanks with
  | none =>
    cases head
    rcases mark with rfl | rfl | rfl <;> decide
  | more blank =>
    cases head
    rcases blank with rfl | rfl | rfl | rfl <;> decide

theorem Writes.stops_elements {list : List Document}
    (written : Writes (.moreElements list) text rest) : Stops text := by
  cases written with
  | endElements blanks => exact stops_of_blanks blanks (by simp)
  | nextElement blanks => exact stops_of_blanks blanks (by simp)

theorem Writes.stops_members {list : List (List Nat × Document)}
    (written : Writes (.moreMembers list) text rest) : Stops text := by
  cases written with
  | endMembers blanks => exact stops_of_blanks blanks (by simp)
  | nextMember blanks => exact stops_of_blanks blanks (by simp)

/-- The number of parts that a reader has to be ready for. -/
def Expectation.need (length : Nat) : Expectation → Nat
  | .value => 2 * length + 2
  | .elements | .members => 2 * length + 3
  | .moreElements | .moreMembers => 2 * length + 1

@[simp] theorem skipBlanks_skipBlanks (text : List Char) :
    skipBlanks (skipBlanks text) = skipBlanks text :=
  (blanks_skipBlanks text).skipBlanks_eq.symm

theorem skip_value_skipBlanks (bound : Nat) (text : List Char) :
    skip (bound + 1) .value (skipBlanks text) = skip (bound + 1) .value text := by
  simp only [skip, skipBlanks_skipBlanks]

/-- An array that is not empty is passed over one element at a time. -/
theorem skip_elements_cons {list : List Document}
    (written : Writes (.elements (document :: list)) text rest) :
    skip (bound + 2) .elements text =
      skip (bound + 1) .value text >>= skip (bound + 1) .moreElements := by
  cases written with
  | elements blanks value more =>
    obtain ⟨c, behind, rfl, begins⟩ := value.begins
    have solid := begins.solid
    rw [← skip_value_skipBlanks bound text, skip.eq_def]
    simp [blanks.reach solid.1, solid.2.1]

theorem Name.of_blanks {units : List Nat} (blanks : Blanks text first)
    (name : Name units first rest) : Name units text rest := by
  obtain ⟨before, quoted, behind⟩ := name
  exact .colon (blanks.trans before) quoted behind

theorem skip_members_named {units : List Nat} (name : Name units text first) :
    skip (bound + 1) .members text = skip bound .value first >>= skip bound .moreMembers := by
  obtain ⟨before, quoted, behind⟩ := name
  have passed := skipName_of_name (.colon (.none _) quoted behind)
  simp [skip, before.reach rfl, passed, bind, Except.bind]

theorem skip_moreMembers_named {units : List Nat} {inner : List Char}
    (comma : Blanks text (',' :: inner)) (name : Name units inner first) :
    skip (bound + 1) .moreMembers text = skip bound .value first >>= skip bound .moreMembers := by
  simp [skip, comma.reach rfl, skipName_of_name name, bind, Except.bind]

theorem not_begins_of_digit {c : Char} (digit : c = '-' ∨ Decimal.isDigit c = true) :
    c ≠ 'n' ∧ c ≠ 't' ∧ c ≠ 'f' ∧ c ≠ '"' ∧ c ≠ '[' ∧ c ≠ '\x7b' := by
  rcases digit with rfl | digit
  · decide
  · have other (d : Char) (no : Decimal.isDigit d = false) : c ≠ d := by
      rintro rfl
      simp [digit] at no
    exact ⟨other _ rfl, other _ rfl, other _ rfl, other _ rfl, other _ rfl, other _ rfl⟩

theorem Expectation.exists_bound {length : Nat} {due : Expectation}
    (ready : due.need length ≤ bound) : ∃ b, bound = b + 1 := by
  refine ⟨bound - 1, ?_⟩
  cases due <;> simp only [need] at ready <;> omega

/-- A part that is written is passed over up to what follows it. -/
theorem skip_of_writes (written : Writes part first rest) (blanks : Blanks text first)
    (stops : ∀ n, part = .value (.number n) → Stops rest)
    (ready : part.expectation.need text.length ≤ bound) :
    skip bound part.expectation text = .ok rest := by
  have shorter := blanks.length_le
  -- On the grammar: each part is one step of the reader, which leaves a bound for what is
  -- inside it because that is shorter.
  induction written generalizing text bound with
  | null | yes | no =>
    obtain ⟨bound, rfl⟩ := Expectation.exists_bound ready
    simp [Part.expectation, skip, blanks.reach rfl, readWord]
  | @number n _ _ numeral =>
    obtain ⟨bound, rfl⟩ := Expectation.exists_bound ready
    have scan := scanNumeral_of_written numeral (stops n rfl)
    obtain ⟨c, more, rfl, digit⟩ := numeral.begins
    have other := not_begins_of_digit digit
    have solid := (Document.Begins.number (n := n) digit).solid
    simp [Part.expectation, skip, blanks.reach solid.1, other, digit, skipNumeral, scan]
  | string quoted =>
    obtain ⟨bound, rfl⟩ := Expectation.exists_bound ready
    simp [Part.expectation, skip, blanks.reach rfl, skipString_of_quoted quoted]
  | @array list inner rest _ ih | @object list inner rest _ ih =>
    obtain ⟨bound, rfl⟩ := Expectation.exists_bound ready
    simp only [Part.expectation, Expectation.need, List.length_cons] at ready shorter ih
    have inside := @ih inner bound (.none inner) (by simp) (by omega) (Nat.le_refl _)
    simpa [Part.expectation, skip, blanks.reach rfl] using inside
  | noElements closing | noMembers closing | endElements closing | endMembers closing =>
    obtain ⟨bound, rfl⟩ := Expectation.exists_bound ready
    simp [Part.expectation, skip, (blanks.trans closing).reach rfl]
  | @elements document list inner first behind rest before value more ihValue ihMore =>
    obtain ⟨bound, rfl⟩ := Expectation.exists_bound ready
    have length := before.length_le
    have taken := value.length_lt
    simp only [Part.expectation, Expectation.need] at ready ihValue ihMore
    have reached := value.reach (blanks.trans before)
    obtain ⟨c, _, rfl, begins⟩ := value.begins
    have passed := @ihValue _ bound (.none _) (fun _ _ => more.stops_elements) (by omega)
      (Nat.le_refl _)
    have closed := @ihMore _ bound (.none _) (by simp) (by omega) (Nat.le_refl _)
    simp [Part.expectation, skip, reached, begins.solid.2.1, passed, closed, bind, Except.bind]
  | @nextElement document list _ inner rest comma written ih =>
    simp only [Part.expectation, Expectation.need] at ready ih
    have length := comma.length_le
    simp only [List.length_cons] at length
    obtain ⟨bound, rfl⟩ : ∃ b, bound = b + 2 := ⟨bound - 2, by omega⟩
    have passed := @ih inner (bound + 2) (.none inner) (by simp) (by omega) (Nat.le_refl _)
    rw [skip_elements_cons written] at passed
    rw [Part.expectation, skip.eq_def]
    simp [(blanks.trans comma).reach rfl, passed]
  | @members units document list inner named first behind rest name before value more ihValue
      ihMore =>
    obtain ⟨bound, rfl⟩ := Expectation.exists_bound ready
    have length := before.length_le
    have taken := value.length_lt
    have nameTaken := name.length_lt
    simp only [Part.expectation, Expectation.need] at ready ihValue ihMore
    have passed := @ihValue _ bound before (fun _ _ => more.stops_members) (by omega) length
    have closed := @ihMore _ bound (.none _) (by simp) (by omega) (Nat.le_refl _)
    rw [Part.expectation, skip_members_named (name.of_blanks blanks)]
    simp [passed, closed, bind, Except.bind]
  | @nextMember member list _ inner rest comma written ih =>
    simp only [Part.expectation, Expectation.need] at ready ih
    have length := comma.length_le
    simp only [List.length_cons] at length
    obtain ⟨bound, rfl⟩ : ∃ b, bound = b + 1 := ⟨bound - 1, by omega⟩
    have passed := @ih inner (bound + 1) (.none inner) (by simp) (by omega) (Nat.le_refl _)
    cases written with
    | members name =>
      rw [skip_members_named name] at passed
      rw [Part.expectation, skip_moreMembers_named (blanks.trans comma) name, passed]

theorem skipValue_of_writes (written : Writes (.value document) first rest)
    (blanks : Blanks text first) (stops : Stops rest) : skipValue text = .ok rest :=
  skip_of_writes written blanks (fun _ _ => stops) (Nat.le_refl _)

/-! What is passed over is written. -/

theorem name_of_skipName (read : skipName text = .ok rest) : ∃ units, Name units text rest := by
  unfold skipName at read
  split at read
  · cases read
  · next inner opening =>
    obtain ⟨behind, quoted, read⟩ := bind_eq_ok.mp read
    obtain ⟨units, quoted⟩ := quoted_of_skipString quoted
    split at read
    · cases read
    · next colon =>
      cases read
      exact ⟨units, .colon (blanks_of_skipBlanks opening) quoted (blanks_of_skipBlanks colon)⟩
    · cases read
  · cases read

/-- A text that begins with what was due. -/
def Passed : Expectation → List Char → List Char → Prop
  | .value, text, rest =>
    ∃ document first, Blanks text first ∧ Writes (.value document) first rest
  | .elements, text, rest => ∃ list, Writes (.elements list) text rest
  | .moreElements, text, rest => ∃ list, Writes (.moreElements list) text rest
  | .members, text, rest => ∃ list, Writes (.members list) text rest
  | .moreMembers, text, rest => ∃ list, Writes (.moreMembers list) text rest

section
variable (ih : ∀ {due : Expectation} {text rest : List Char},
  skip bound due text = .ok rest → Passed due text rest)

include ih

theorem passed_value (read : skip (bound + 1) .value text = .ok rest) :
    Passed .value text rest := by
  unfold skip at read
  split at read
  · cases read
  · next reached =>
    obtain rfl := (readWord_eq_ok _).mp read
    exact ⟨_, _, blanks_of_skipBlanks reached, .null _⟩
  · next reached =>
    obtain rfl := (readWord_eq_ok _).mp read
    exact ⟨_, _, blanks_of_skipBlanks reached, .yes _⟩
  · next reached =>
    obtain rfl := (readWord_eq_ok _).mp read
    exact ⟨_, _, blanks_of_skipBlanks reached, .no _⟩
  · next reached =>
    obtain ⟨units, quoted⟩ := quoted_of_skipString read
    exact ⟨_, _, blanks_of_skipBlanks reached, .string quoted⟩
  · next reached =>
    obtain ⟨list, written⟩ := ih read
    exact ⟨_, _, blanks_of_skipBlanks reached, .array written⟩
  · next reached =>
    obtain ⟨list, written⟩ := ih read
    exact ⟨_, _, blanks_of_skipBlanks reached, .object written⟩
  · next reached =>
    split at read
    · unfold skipNumeral at read
      split at read
      · next scan =>
        cases read
        exact ⟨_, _, blanks_of_skipBlanks reached, .number (written_of_scanNumeral scan)⟩
      · cases read
    · cases read

theorem passed_elements (read : skip (bound + 1) .elements text = .ok rest) :
    Passed .elements text rest := by
  unfold skip at read
  split at read
  · cases read
  · next reached =>
    cases read
    exact ⟨[], .noElements (blanks_of_skipBlanks reached)⟩
  · obtain ⟨behind, value, more⟩ := bind_eq_ok.mp read
    obtain ⟨document, first, before, value⟩ := ih value
    obtain ⟨list, more⟩ := ih more
    exact ⟨_, .elements ((blanks_skipBlanks text).trans before) value more⟩

theorem passed_moreElements (read : skip (bound + 1) .moreElements text = .ok rest) :
    Passed .moreElements text rest := by
  unfold skip at read
  split at read
  · cases read
  · next reached =>
    cases read
    exact ⟨[], .endElements (blanks_of_skipBlanks reached)⟩
  · next reached =>
    obtain ⟨behind, value, more⟩ := bind_eq_ok.mp read
    obtain ⟨document, first, before, value⟩ := ih value
    obtain ⟨list, more⟩ := ih more
    exact ⟨_, .nextElement (blanks_of_skipBlanks reached) (.elements before value more)⟩
  · cases read

theorem passed_members (read : skip (bound + 1) .members text = .ok rest) :
    Passed .members text rest := by
  unfold skip at read
  split at read
  · cases read
  · next reached =>
    cases read
    exact ⟨[], .noMembers (blanks_of_skipBlanks reached)⟩
  · obtain ⟨named, name, read⟩ := bind_eq_ok.mp read
    obtain ⟨behind, value, more⟩ := bind_eq_ok.mp read
    obtain ⟨units, name⟩ := name_of_skipName name
    obtain ⟨document, first, before, value⟩ := ih value
    obtain ⟨list, more⟩ := ih more
    exact ⟨_, .members (name.of_blanks (blanks_skipBlanks text)) before value more⟩

theorem passed_moreMembers (read : skip (bound + 1) .moreMembers text = .ok rest) :
    Passed .moreMembers text rest := by
  unfold skip at read
  split at read
  · cases read
  · next reached =>
    cases read
    exact ⟨[], .endMembers (blanks_of_skipBlanks reached)⟩
  · next reached =>
    obtain ⟨named, name, read⟩ := bind_eq_ok.mp read
    obtain ⟨behind, value, more⟩ := bind_eq_ok.mp read
    obtain ⟨units, name⟩ := name_of_skipName name
    obtain ⟨document, first, before, value⟩ := ih value
    obtain ⟨list, more⟩ := ih more
    exact ⟨_, .nextMember (blanks_of_skipBlanks reached) (.members name before value more)⟩
  · cases read

end

theorem passed_of_skip {due : Expectation} (read : skip bound due text = .ok rest) :
    Passed due text rest := by
  induction bound generalizing due text rest with
  | zero => cases due <;> cases read
  | succ bound ih =>
    cases due with
    | value => exact passed_value ih read
    | elements => exact passed_elements ih read
    | moreElements => exact passed_moreElements ih read
    | members => exact passed_members ih read
    | moreMembers => exact passed_moreMembers ih read

end AggregateStage.Json
