import Mathlib.Data.List.TakeWhile
import AggregateStage.Proofs.Json.Grammar

/-! The readers of the smallest parts against the grammar. Each one takes exactly what is
written, as far as it goes, and fails where nothing is written. -/
namespace AggregateStage.Json

variable {ε α β : Type} {text inner rest more : List Char}

@[simp] theorem toOption_ok (x : α) : (Except.ok x : Except ε α).toOption = some x := rfl

@[simp] theorem toOption_pure (x : α) : (pure x : Except ε α).toOption = some x := rfl

@[simp] theorem toOption_error (e : ε) : (Except.error e : Except ε α).toOption = none := rfl

@[simp] theorem toOption_map (f : α → β) (read : Except ε α) :
    (read.map f).toOption = read.toOption.map f := by
  cases read <;> rfl

@[simp] theorem toOption_bind (read : Except ε α) (next : α → Except ε β) :
    (read >>= next).toOption = read.toOption.bind fun x => (next x).toOption := by
  cases read <;> rfl

theorem toOption_eq_some {read : Except ε α} {x : α} : read.toOption = some x ↔ read = .ok x := by
  cases read <;> simp [Except.toOption]

theorem bind_eq_ok {read : Except ε α} {next : α → Except ε β} {y : β} :
    read >>= next = .ok y ↔ ∃ x, read = .ok x ∧ next x = .ok y := by
  cases read <;> simp [bind, Except.bind]

theorem map_eq_ok {read : Except ε α} {f : α → β} {y : β} :
    read.map f = .ok y ↔ ∃ x, read = .ok x ∧ f x = y := by
  cases read <;> simp [Except.map]

/-! Blanks. -/

theorem isBlank_iff (c : Char) : isBlank c = true ↔ IsBlank c := by
  simp [isBlank, IsBlank, or_assoc]

theorem Blanks.trans (first : Blanks text inner) (second : Blanks inner rest) :
    Blanks text rest := by
  induction first with
  | none => exact second
  | more blank _ ih => exact .more blank (ih second)

theorem Blanks.append (blanks : Blanks text rest) (more : List Char) :
    Blanks (text ++ more) (rest ++ more) := by
  induction blanks with
  | none => exact .none _
  | more blank _ ih => exact .more blank ih

theorem Blanks.length_le (blanks : Blanks text rest) : rest.length ≤ text.length := by
  induction blanks with
  | none => exact Nat.le_refl _
  | more _ _ ih => exact Nat.le_succ_of_le ih

theorem Blanks.skipBlanks_eq (blanks : Blanks text rest) : skipBlanks text = skipBlanks rest := by
  induction blanks with
  | none => rfl
  | more blank _ ih =>
    rw [← ih, skipBlanks, List.dropWhile_cons_of_pos ((isBlank_iff _).mpr blank), skipBlanks]

theorem skipBlanks_solid {c : Char} (solid : isBlank c = false) :
    skipBlanks (c :: rest) = c :: rest :=
  List.dropWhile_cons_of_neg (by simp [solid])

/-- Blanks are passed over up to what is none. -/
theorem Blanks.reach {c : Char} (blanks : Blanks text (c :: rest)) (solid : isBlank c = false) :
    skipBlanks text = c :: rest := by
  rw [blanks.skipBlanks_eq, skipBlanks_solid solid]

theorem Blanks.reach_end (blanks : Blanks text []) : skipBlanks text = [] := blanks.skipBlanks_eq

theorem Blanks.all_blank (blanks : Blanks text []) {c : Char} (member : c ∈ text) : IsBlank c := by
  generalize ended : ([] : List Char) = rest at blanks
  induction blanks with
  | none =>
    subst ended
    cases member
  | more blank _ ih =>
    rcases List.mem_cons.mp member with rfl | later
    · exact blank
    · exact ih later ended

theorem blanks_skipBlanks (text : List Char) : Blanks text (skipBlanks text) := by
  induction text with
  | nil => exact .none _
  | cons c text ih =>
    cases blank : isBlank c with
    | true =>
      rw [skipBlanks, List.dropWhile_cons_of_pos blank]
      exact .more ((isBlank_iff c).mp blank) ih
    | false =>
      rw [skipBlanks_solid blank]
      exact .none _

theorem blanks_of_skipBlanks (reached : skipBlanks text = rest) : Blanks text rest :=
  reached ▸ blanks_skipBlanks text

/-! Words. -/

theorem readWord_eq_ok (word : List Char) : readWord word text = .ok rest ↔ text = word ++ rest := by
  induction word generalizing text with
  | nil => simp [readWord]
  | cons due word ih =>
    cases text with
    | nil => simp [readWord]
    | cons c text =>
      by_cases same : c = due
      · simp [readWord, same, ih]
      · simp [readWord, same]

/-! Strings. -/

theorem shortEscape_eq_some {letter c : Char} :
    shortEscape letter = some c ↔ (letter, c) ∈ shortEscapes := by
  constructor
  · intro found
    unfold shortEscape at found
    split at found <;> simp_all [shortEscapes, eq_comm]
  · intro member
    simp only [shortEscapes, List.mem_cons, Prod.mk.injEq, List.not_mem_nil, or_false] at member
    rcases member with h | h | h | h | h | h | h | h <;> (obtain ⟨rfl, rfl⟩ := h; rfl)

/-- The letter of an escaped code unit is no short escape. -/
theorem shortEscapes_ne_u {letter c : Char} (member : (letter, c) ∈ shortEscapes) :
    letter ≠ 'u' := by
  rintro rfl
  simp [shortEscapes] at member

theorem hexDigit_of_hexValue {c : Char} {value : Nat} (found : Text.hexValue c = some value) :
    HexDigit c value := by
  have table : ∀ n < 103, ((Text.hexValue (Char.ofNat n)).all fun v => decide (v < 16 ∧
      (Char.ofNat n = Nat.digitChar v ∨ Char.ofNat n = (Nat.digitChar v).toUpper))) = true := by
    decide +kernel
  have small : c.toNat < 103 := by
    unfold Text.hexValue at found
    split at found
    · next range => exact Nat.lt_of_le_of_lt (UInt32.le_iff_toNat_le.mp range.2) (by decide)
    · split at found
      · next range => exact Nat.lt_of_le_of_lt (UInt32.le_iff_toNat_le.mp range.2) (by decide)
      · split at found
        · next range => exact Nat.lt_of_le_of_lt (UInt32.le_iff_toNat_le.mp range.2) (by decide)
        · cases found
  have entry := table c.toNat small
  rw [Char.ofNat_toNat, found] at entry
  simpa only [HexDigit, Option.all_some, decide_eq_true_eq] using entry

theorem hexValue_of_hexDigit {c : Char} {value : Nat} (digit : HexDigit c value) :
    Text.hexValue c = some value := by
  obtain ⟨small, spelled⟩ := digit
  have table : ∀ v < 16, Text.hexValue (Nat.digitChar v) = some v ∧
      Text.hexValue (Nat.digitChar v).toUpper = some v := by
    decide +kernel
  rcases spelled with rfl | rfl
  · exact (table value small).1
  · exact (table value small).2

theorem codeUnit_of_digits {a b c d : Char} {i j k l : Nat} (first : HexDigit a i)
    (second : HexDigit b j) (third : HexDigit c k) (fourth : HexDigit d l) :
    codeUnit a b c d = some (((i * 16 + j) * 16 + k) * 16 + l) := by
  simp [codeUnit, hexValue_of_hexDigit first, hexValue_of_hexDigit second,
    hexValue_of_hexDigit third, hexValue_of_hexDigit fourth]

theorem digits_of_codeUnit {a b c d : Char} {unit : Nat} (found : codeUnit a b c d = some unit) :
    ∃ i j k l, HexDigit a i ∧ HexDigit b j ∧ HexDigit c k ∧ HexDigit d l ∧
      unit = ((i * 16 + j) * 16 + k) * 16 + l := by
  simp only [codeUnit, Option.bind_eq_bind, Option.bind_eq_some_iff, Option.pure_def,
    Option.some.injEq] at found
  obtain ⟨i, first, j, second, k, third, l, fourth, rfl⟩ := found
  exact ⟨i, j, k, l, hexDigit_of_hexValue first, hexDigit_of_hexValue second,
    hexDigit_of_hexValue third, hexDigit_of_hexValue fourth, rfl⟩

/-- An escaped code unit, as the readers take it. -/
theorem Quoted.unit' {a b c d : Char} {unit : Nat} {units : List Nat}
    (found : codeUnit a b c d = some unit) (later : Quoted units text rest) :
    Quoted (unit :: units) ('\\' :: 'u' :: a :: b :: c :: d :: text) rest := by
  obtain ⟨i, j, k, l, first, second, third, fourth, rfl⟩ := digits_of_codeUnit found
  exact .unit first second third fourth later

theorem isControl_eq_false {c : Char} : isControl c = false ↔ 0x20 ≤ c.toNat := by
  simp [isControl]

/-- Characters that need no escape stand for themselves. -/
theorem Quoted.plain {s : List Char}
    (plain : s.all (fun c => decide (0x20 ≤ c.toNat) && c != '"' && c != '\\') = true)
    (rest : List Char) : Quoted (s.flatMap utf16) (s ++ '"' :: rest) rest := by
  induction s with
  | nil => exact .close rest
  | cons c s ih =>
    simp only [List.all_cons, Bool.and_eq_true, decide_eq_true_eq, bne_iff_ne, ne_eq] at plain ih
    obtain ⟨⟨⟨printable, notQuote⟩, notBackslash⟩, more⟩ := plain
    exact .literal printable notQuote notBackslash (ih more)

/-- Strings that are passed over need no paired surrogates. -/
theorem skipString_of_quoted {units : List Nat} (quoted : Quoted units text rest) :
    skipString text = .ok rest := by
  induction quoted with
  | close => simp [skipString]
  | literal printable notQuote notBackslash _ ih =>
    simp [skipString, notBackslash, isControl_eq_false.mpr printable, ih]
  | short member _ ih =>
    simp [skipString, shortEscapes_ne_u member, shortEscape_eq_some.mpr member, ih]
  | unit first second third fourth _ ih =>
    simp [skipString, codeUnit_of_digits first second third fourth, ih]

theorem quoted_of_skipString (read : skipString text = .ok rest) :
    ∃ units, Quoted units text rest := by
  fun_induction skipString text with
  | case2 =>
    cases read
    exact ⟨[], .close _⟩
  | case5 a b c d behind unit found ih =>
    obtain ⟨units, quoted⟩ := ih read
    exact ⟨_, quoted.unit' found⟩
  | case7 letter behind _ _ c found ih =>
    obtain ⟨units, quoted⟩ := ih read
    exact ⟨_, quoted.short (shortEscape_eq_some.mp found)⟩
  | case10 c behind notQuote _ _ _ notEscape printable ih =>
    obtain ⟨units, quoted⟩ := ih read
    have notBackslash : c ≠ '\\' := by
      rintro rfl
      cases behind <;> simp_all
    exact ⟨_, .literal (isControl_eq_false.mp (by simpa using printable)) notQuote notBackslash quoted⟩
  | _ => simp at read

@[simp] theorem toOption_prepend (c : Char) (read : Except Fault (List Char × List Char)) :
    (prepend c read).toOption = read.toOption.map fun (more, rest) => (c :: more, rest) :=
  toOption_map _ read

theorem utf16_of_short {letter c : Char} (member : (letter, c) ∈ shortEscapes) :
    utf16 c = [c.toNat] := by
  simp only [shortEscapes, List.mem_cons, Prod.mk.injEq, List.not_mem_nil, or_false] at member
  rcases member with h | h | h | h | h | h | h | h <;> (obtain ⟨_, rfl⟩ := h; rfl)

/-- A leading surrogate has to be followed by an escaped trailing one. -/
theorem ofUtf16?_leading {unit : Nat} (leading : isLeading unit = true) (units : List Nat) :
    ofUtf16? (unit :: units) = match units with
      | [] => none
      | next :: units =>
        if isTrailing next then (ofUtf16? units).map (joinPair unit next :: ·) else none := by
  have apart : isTrailing unit = false := by
    rw [← Bool.not_eq_true, isTrailing_iff]
    rw [isLeading_iff] at leading
    omega
  cases units <;> simp [ofUtf16?, leading, apart]

/-- A leading surrogate and what follows it, given that shorter texts are read as they should. -/
theorem readString_leading {a b c d : Char} {unit : Nat} {units : List Nat}
    (found : codeUnit a b c d = some unit) (leading : isLeading unit = true)
    (later : Quoted units text rest)
    (shorter : ∀ units inner, inner.length < text.length → Quoted units inner rest →
      (readString inner).toOption = (ofUtf16? units).map (·, rest)) :
    (readString ('\\' :: 'u' :: a :: b :: c :: d :: text)).toOption =
      (ofUtf16? (unit :: units)).map (·, rest) := by
  have apart : isTrailing unit = false := by
    rw [← Bool.not_eq_true, isTrailing_iff]
    rw [isLeading_iff] at leading
    omega
  rw [ofUtf16?_leading leading]
  cases later with
  | close => simp [readString, found, apart, leading]
  | @literal letter _ _ _ _ _ notBackslash _ =>
    obtain ⟨next, more, encoded, single⟩ := utf16_head letter
    simp [readString, found, apart, leading, notBackslash, encoded, single]
  | @short letter _ _ _ _ member _ =>
    simp [readString, found, apart, leading, shortEscapes_ne_u member, not_isTrailing_toNat]
  | @unit e f g h i j k l _ inner _ first second third fourth behind =>
    have next := codeUnit_of_digits first second third fourth
    have read := shorter _ inner (by simp only [List.length_cons]; omega) behind
    by_cases paired : isTrailing (((i * 16 + j) * 16 + k) * 16 + l) = true
    · simp [readString, found, next, apart, leading, paired, read, Function.comp_def]
    · simp [readString, found, next, apart, leading, paired]

/-- A string is read as its characters, and not read if its units are no text. -/
theorem readString_of_quoted {units : List Nat} (quoted : Quoted units text rest) :
    (readString text).toOption = (ofUtf16? units).map (·, rest) := by
  -- A surrogate looks ahead over a second unit, so the induction is on the length.
  induction size : text.length using Nat.strongRecOn generalizing units text with
  | ind size ih =>
  have shorter (units : List Nat) (inner : List Char) (less : inner.length < text.length)
      (quoted : Quoted units inner rest) := ih inner.length (size ▸ less) quoted rfl
  cases quoted with
  | close => simp [readString, ofUtf16?]
  | @literal c _ inner _ printable _ notBackslash later =>
    have next := shorter _ inner (by simp) later
    simp [readString, notBackslash, isControl_eq_false.mpr printable, ofUtf16?_append, next,
      Function.comp_def]
  | @short letter c units inner _ member later =>
    have next := shorter _ inner (by simp only [List.length_cons]; omega) later
    have single := ofUtf16?_append c units
    rw [utf16_of_short member, List.singleton_append] at single
    simp [readString, shortEscapes_ne_u member, shortEscape_eq_some.mpr member, single, next,
      Function.comp_def]
  | @unit a b c d i j k l units inner _ first second third fourth later =>
    have found := codeUnit_of_digits first second third fourth
    have next := shorter _ inner (by simp only [List.length_cons]; omega) later
    by_cases leading : isLeading (((i * 16 + j) * 16 + k) * 16 + l) = true
    · exact readString_leading found leading later fun _ _ less =>
        shorter _ _ (by simp at less ⊢; omega)
    · rw [ofUtf16?.eq_def]
      by_cases trailing : isTrailing (((i * 16 + j) * 16 + k) * 16 + l) = true
      · simp [readString, found, trailing]
      · simp [readString, found, trailing, leading, next, Function.comp_def]

theorem prepend_eq_ok {c : Char} {read : Except Fault (List Char × List Char)} {s : List Char}
    (done : prepend c read = .ok (s, rest)) : ∃ more, read = .ok (more, rest) := by
  obtain ⟨⟨more, behind⟩, found, equal⟩ := map_eq_ok.mp done
  cases equal
  exact ⟨more, found⟩

theorem quoted_of_readString {s : List Char} (read : readString text = .ok (s, rest)) :
    ∃ units, Quoted units text rest := by
  fun_induction readString text generalizing s with
  | case2 =>
    cases read
    exact ⟨[], .close _⟩
  | case7 a b c d unit found _ _ e f g h behind next found' _ ih =>
    obtain ⟨more, later⟩ := prepend_eq_ok read
    obtain ⟨units, quoted⟩ := ih later
    exact ⟨_, (quoted.unit' found').unit' found⟩
  | case14 a b c d behind unit found _ _ ih =>
    obtain ⟨more, later⟩ := prepend_eq_ok read
    obtain ⟨units, quoted⟩ := ih later
    exact ⟨_, quoted.unit' found⟩
  | case16 letter behind _ _ c found ih =>
    obtain ⟨more, later⟩ := prepend_eq_ok read
    obtain ⟨units, quoted⟩ := ih later
    exact ⟨_, quoted.short (shortEscape_eq_some.mp found)⟩
  | case19 c behind notQuote _ _ _ notEscape printable ih =>
    obtain ⟨more, later⟩ := prepend_eq_ok read
    obtain ⟨units, quoted⟩ := ih later
    have notBackslash : c ≠ '\\' := by
      rintro rfl
      cases behind <;> simp_all
    exact ⟨_, .literal (isControl_eq_false.mp (by simpa using printable)) notQuote notBackslash quoted⟩
  | _ => simp at read

end AggregateStage.Json
