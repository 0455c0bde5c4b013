import AggregateStage.Proofs.WorkItem.Reading

/-! What the readers of payloads take is written as the grammar says. Which value they make
of it is not followed here, since a text that is written has one meaning only. -/
namespace AggregateStage.Payload

open Json

variable {α : Type} {text next inner rest : List Char} {isFirst : Bool} {bound : Nat}
  {draft after : Draft}

theorem passed_of_readOrNull {zero x : α} {read : List Char → Except Fault (α × List Char)}
    (sound : ∀ {x text}, read text = .ok (x, rest) → Passed .value text rest)
    (taken : readOrNull zero read text = .ok (x, rest)) : Passed .value text rest := by
  unfold readOrNull at taken
  split at taken
  · next reached =>
    obtain ⟨_, word, equal⟩ := map_eq_ok.mp taken
    cases equal
    obtain rfl := (readWord_eq_ok _).mp word
    exact ⟨_, _, blanks_of_skipBlanks reached, .null _⟩
  · obtain ⟨document, first, blanks, written⟩ := sound taken
    exact ⟨document, first, (blanks_skipBlanks text).trans blanks, written⟩

theorem passed_of_readText {x : String} (taken : readText text = .ok (x, rest)) :
    Passed .value text rest := by
  unfold readText at taken
  split at taken
  · next reached =>
    obtain ⟨_, read, equal⟩ := map_eq_ok.mp taken
    cases equal
    obtain ⟨units, quoted⟩ := quoted_of_readString read
    exact ⟨_, _, blanks_of_skipBlanks reached, .string quoted⟩
  · cases taken

theorem passed_of_readNumber {x : Float} (taken : readNumber text = .ok (x, rest)) :
    Passed .value text rest := by
  unfold readNumber at taken
  split at taken
  · cases taken
  · next reached =>
    split at taken
    · obtain ⟨_, read, equal⟩ := map_eq_ok.mp taken
      cases equal
      unfold readNumeral at read
      split at read
      · next scan =>
        obtain ⟨_, _, equal⟩ := map_eq_ok.mp read
        cases equal
        exact ⟨_, _, blanks_of_skipBlanks reached, .number (written_of_scanNumeral scan)⟩
      · cases read
      · cases read
    · cases taken

theorem written_of_closeArray (closed : closeArray text = .ok rest) :
    Writes (.elementsFrom isFirst []) text rest := by
  unfold closeArray at closed
  split at closed
  · cases closed
  · next reached =>
    cases closed
    cases isFirst with
    | true => exact .noElements (blanks_of_skipBlanks reached)
    | false => exact .endElements (blanks_of_skipBlanks reached)
  · split at closed <;> cases closed
  · cases closed

/-- An element that was found and passed goes before those that follow it. -/
theorem written_of_nextElement (found : nextElement isFirst text = .ok (some next))
    (passed : Passed .value next inner) {list : List Document}
    (more : Writes (.elementsFrom false list) inner rest) :
    ∃ document, Writes (.elementsFrom isFirst (document :: list)) text rest := by
  obtain ⟨document, first, blanks, value⟩ := passed
  refine ⟨document, ?_⟩
  unfold nextElement at found
  split at found
  · cases found
  · cases found
  · next reached =>
    have before := blanks_of_skipBlanks reached
    cases isFirst with
    | true =>
      cases found
      exact .elements (before.trans blanks) value more
    | false =>
      simp only [Bool.false_eq_true, if_false] at found
      -- Behind another element the comma comes first, and what it is followed by is no bracket.
      split at found
      · next comma =>
        subst comma
        split at found
        · cases found
        · cases found
        · next behind =>
          cases found
          exact .nextElement before (.elements ((blanks_skipBlanks _).trans blanks) value more)
      · cases found

theorem written_of_readElements {xs : List Float}
    (taken : readElements bound isFirst text = .ok (xs, rest)) :
    ∃ list, Writes (.elementsFrom isFirst list) text rest := by
  induction bound generalizing isFirst text xs with
  | zero => cases taken
  | succ bound ih =>
    obtain ⟨place, found, taken⟩ := bind_eq_ok.mp taken
    cases place with
    | none =>
      obtain ⟨_, closed, equal⟩ := bind_eq_ok.mp taken
      cases equal
      exact ⟨[], written_of_closeArray closed⟩
    | some place =>
      obtain ⟨⟨x, behind⟩, read, taken⟩ := bind_eq_ok.mp taken
      obtain ⟨⟨xs, _⟩, later, equal⟩ := bind_eq_ok.mp taken
      cases equal
      obtain ⟨list, more⟩ := ih later
      obtain ⟨document, written⟩ := written_of_nextElement found (passed_of_readNumber read) more
      exact ⟨document :: list, written⟩

theorem passed_of_readNumbers {xs : List Float} (taken : readNumbers text = .ok (xs, rest)) :
    Passed .value text rest := by
  unfold readNumbers at taken
  split at taken
  · next reached =>
    obtain ⟨list, written⟩ := written_of_readElements taken
    exact ⟨_, _, blanks_of_skipBlanks reached, .array written⟩
  · cases taken

theorem passed_of_readField {name : String}
    (taken : draft.readField name text = .ok (after, rest)) : Passed .value text rest := by
  unfold Draft.readField at taken
  split at taken
  · obtain ⟨_, read, equal⟩ := map_eq_ok.mp taken
    cases equal
    exact passed_of_readOrNull passed_of_readText read
  · split at taken
    · obtain ⟨_, read, equal⟩ := map_eq_ok.mp taken
      cases equal
      exact passed_of_readOrNull passed_of_readNumbers read
    · split at taken
      · obtain ⟨_, read, equal⟩ := map_eq_ok.mp taken
        cases equal
        exact passed_of_readOrNull passed_of_readNumber read
      · obtain ⟨_, skipped, equal⟩ := map_eq_ok.mp taken
        cases equal
        exact passed_of_skip skipped

/-- A member is passed from behind the opening quote of its name. -/
theorem passed_of_readMember (taken : readMember draft inner = .ok (after, rest))
    (opening : Blanks text ('"' :: inner)) :
    ∃ units named, Name units text named ∧ Passed .value named rest := by
  obtain ⟨⟨name, behind⟩, read, taken⟩ := bind_eq_ok.mp taken
  obtain ⟨units, quoted⟩ := quoted_of_readString read
  dsimp only at taken
  split at taken
  · cases taken
  · split at taken
    · cases taken
    · next reached =>
      have colon := blanks_of_skipBlanks reached
      exact ⟨units, _, .colon opening quoted colon, passed_of_readField taken⟩
    · cases taken

theorem written_of_readMembers (taken : readMembers bound draft text = .ok (after, rest)) :
    ∃ members, Writes (.moreMembers members) text rest := by
  induction bound generalizing draft text with
  | zero => cases taken
  | succ bound ih =>
    unfold readMembers at taken
    split at taken
    · cases taken
    · next reached =>
      cases taken
      exact ⟨[], .endMembers (blanks_of_skipBlanks reached)⟩
    · next reached =>
      split at taken
      · cases taken
      · next opening =>
        obtain ⟨⟨_, behind⟩, read, later⟩ := bind_eq_ok.mp taken
        obtain ⟨units, named, name, document, first, blanks, value⟩ :=
          passed_of_readMember read (blanks_of_skipBlanks opening)
        obtain ⟨members, more⟩ := ih later
        have comma := blanks_of_skipBlanks reached
        exact ⟨(units, document) :: members, .nextMember comma (.members name blanks value more)⟩
      · cases taken
      · cases taken
    · cases taken

theorem written_of_readObject (taken : readObject text = .ok (after, rest)) :
    ∃ members, Writes (.members members) text rest := by
  unfold readObject at taken
  split at taken
  · cases taken
  · next reached =>
    cases taken
    exact ⟨[], .noMembers (blanks_of_skipBlanks reached)⟩
  · next opening =>
    obtain ⟨⟨_, behind⟩, read, later⟩ := bind_eq_ok.mp taken
    obtain ⟨units, named, name, document, first, blanks, value⟩ :=
      passed_of_readMember read (blanks_of_skipBlanks opening)
    obtain ⟨members, more⟩ := written_of_readMembers later
    exact ⟨(units, document) :: members, .members name blanks value more⟩
  · cases taken

/-! Arrays, from the last element to the first. -/

theorem written_of_readThird {id : String} {eigenvalues : List Float}
    (taken : readThird id eigenvalues text = .ok (after, rest)) :
    ∃ list, Writes (.elementsFrom false list) text rest := by
  obtain ⟨place, found, taken⟩ := bind_eq_ok.mp taken
  cases place with
  | none =>
    obtain ⟨_, closed, equal⟩ := bind_eq_ok.mp taken
    cases equal
    exact ⟨[], written_of_closeArray closed⟩
  | some place =>
    obtain ⟨⟨score, behind⟩, read, taken⟩ := bind_eq_ok.mp taken
    obtain ⟨_, closed, equal⟩ := bind_eq_ok.mp taken
    cases equal
    have passed := passed_of_readOrNull passed_of_readNumber read
    obtain ⟨document, written⟩ := written_of_nextElement found passed (written_of_closeArray closed)
    exact ⟨[document], written⟩

theorem written_of_readSecond {id : String} (taken : readSecond id text = .ok (after, rest)) :
    ∃ list, Writes (.elementsFrom false list) text rest := by
  obtain ⟨place, found, taken⟩ := bind_eq_ok.mp taken
  cases place with
  | none =>
    obtain ⟨_, closed, equal⟩ := bind_eq_ok.mp taken
    cases equal
    exact ⟨[], written_of_closeArray closed⟩
  | some place =>
    obtain ⟨⟨eigenvalues, behind⟩, read, taken⟩ := bind_eq_ok.mp taken
    obtain ⟨list, more⟩ := written_of_readThird taken
    have passed := passed_of_readOrNull passed_of_readNumbers read
    obtain ⟨document, written⟩ := written_of_nextElement found passed more
    exact ⟨document :: list, written⟩

theorem written_of_readArray (taken : readArray text = .ok (after, rest)) :
    ∃ list, Writes (.elements list) text rest := by
  rw [readArray_eq] at taken
  obtain ⟨place, found, taken⟩ := bind_eq_ok.mp taken
  cases place with
  | none =>
    obtain ⟨_, closed, equal⟩ := bind_eq_ok.mp taken
    cases equal
    exact ⟨[], @written_of_closeArray _ _ true closed⟩
  | some place =>
    obtain ⟨⟨id, behind⟩, read, taken⟩ := bind_eq_ok.mp taken
    obtain ⟨list, more⟩ := written_of_readSecond taken
    have passed := passed_of_readOrNull passed_of_readText read
    obtain ⟨document, written⟩ := @written_of_nextElement _ _ _ _ true found passed _ more
    exact ⟨document :: list, written⟩

/-! Payloads. -/

theorem passed_of_read {payload : Payload} (taken : read text = .ok (payload, rest)) :
    Passed .value text rest := by
  unfold read at taken
  split at taken
  · next reached =>
    obtain ⟨_, word, equal⟩ := map_eq_ok.mp taken
    cases equal
    obtain rfl := (readWord_eq_ok _).mp word
    exact ⟨_, _, blanks_of_skipBlanks reached, .null _⟩
  · next reached =>
    obtain ⟨_, read, equal⟩ := map_eq_ok.mp taken
    cases equal
    obtain ⟨members, written⟩ := written_of_readObject read
    exact ⟨_, _, blanks_of_skipBlanks reached, .object written⟩
  · next reached =>
    obtain ⟨_, read, equal⟩ := map_eq_ok.mp taken
    cases equal
    obtain ⟨list, written⟩ := written_of_readArray read
    exact ⟨_, _, blanks_of_skipBlanks reached, .array written⟩
  · cases taken

theorem written_of_readAll {payload : Payload} (taken : readAll text = .ok payload) :
    ∃ document : Document, document.WrittenAs text := by
  obtain ⟨⟨payload, behind⟩, read, taken⟩ := bind_eq_ok.mp taken
  obtain ⟨document, first, blanks, value⟩ := passed_of_read read
  dsimp only at taken
  split at taken
  · next reached => exact ⟨document, first, behind, blanks, value, blanks_of_skipBlanks reached⟩
  · cases taken

end AggregateStage.Payload
