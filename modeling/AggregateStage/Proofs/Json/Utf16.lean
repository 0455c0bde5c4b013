import AggregateStage.Json.Lexeme

/-! Text as UTF-16 code units. A sequence of units is text exactly when it is what some
characters are encoded as, and then these are its characters. -/
namespace AggregateStage.Json

/-- The UTF-16 code units of a character. -/
def utf16 (c : Char) : List Nat :=
  if c.toNat < 0x10000 then [c.toNat]
  else [0xD800 + (c.toNat - 0x10000) / 0x400, 0xDC00 + (c.toNat - 0x10000) % 0x400]

/-- The characters that code units stand for; none if a surrogate is not one of a pair. -/
def ofUtf16? : List Nat → Option (List Char)
  | [] => some []
  | unit :: rest =>
    if isTrailing unit then none
    else if isLeading unit then
      match rest with
      | [] => none
      | next :: rest =>
        if isTrailing next then (ofUtf16? rest).map (joinPair unit next :: ·) else none
    else (ofUtf16? rest).map (Char.ofNat unit :: ·)

theorem isLeading_iff (unit : Nat) : isLeading unit = true ↔ 0xD800 ≤ unit ∧ unit ≤ 0xDBFF := by
  simp [isLeading]

theorem isTrailing_iff (unit : Nat) :
    isTrailing unit = true ↔ 0xDC00 ≤ unit ∧ unit ≤ 0xDFFF := by
  simp [isTrailing]

/-- No character is a surrogate. -/
theorem toNat_range (c : Char) : c.toNat < 0xD800 ∨ 0xDFFF < c.toNat ∧ c.toNat < 0x110000 :=
  c.valid

theorem utf16_plain {c : Char} (small : c.toNat < 0x10000) : utf16 c = [c.toNat] :=
  if_pos small

/-- A character beyond the first plane is a pair of surrogates. -/
theorem utf16_pair {c : Char} (large : ¬ c.toNat < 0x10000) :
    ∃ leading trailing, utf16 c = [leading, trailing] ∧ isLeading leading = true ∧
      isTrailing trailing = true ∧ joinPair leading trailing = c := by
  have range := toNat_range c
  refine ⟨_, _, if_neg large, ?_, ?_, ?_⟩
  · rw [isLeading_iff]
    omega
  · rw [isTrailing_iff]
    omega
  · have whole : 0x10000 + (0xD800 + (c.toNat - 0x10000) / 0x400 - 0xD800) * 0x400 +
        (0xDC00 + (c.toNat - 0x10000) % 0x400 - 0xDC00) = c.toNat := by omega
    rw [joinPair, whole, Char.ofNat_toNat]

theorem not_isTrailing_toNat (c : Char) : isTrailing c.toNat = false := by
  rw [← Bool.not_eq_true, isTrailing_iff]
  have range := toNat_range c
  omega

theorem not_isLeading_toNat (c : Char) : isLeading c.toNat = false := by
  rw [← Bool.not_eq_true, isLeading_iff]
  have range := toNat_range c
  omega

/-- What a character is encoded as is read back as it. -/
theorem ofUtf16?_append (c : Char) (units : List Nat) :
    ofUtf16? (utf16 c ++ units) = (ofUtf16? units).map (c :: ·) := by
  by_cases small : c.toNat < 0x10000
  · rw [utf16_plain small, List.singleton_append, ofUtf16?.eq_def]
    simp [not_isTrailing_toNat, not_isLeading_toNat]
  · obtain ⟨leading, trailing, encoded, first, second, joined⟩ := utf16_pair small
    have apart : isTrailing leading = false := by
      rw [← Bool.not_eq_true, isTrailing_iff]
      rw [isLeading_iff] at first
      omega
    rw [encoded, List.cons_append, List.singleton_append, ofUtf16?.eq_def]
    simp [first, second, apart, joined]

/-- The first unit of a character is not the second one of a pair. -/
theorem utf16_head (c : Char) :
    ∃ unit more, utf16 c = unit :: more ∧ isTrailing unit = false := by
  by_cases small : c.toNat < 0x10000
  · exact ⟨_, _, utf16_plain small, not_isTrailing_toNat c⟩
  · obtain ⟨leading, trailing, encoded, first, _, _⟩ := utf16_pair small
    refine ⟨leading, [trailing], encoded, ?_⟩
    rw [← Bool.not_eq_true, isTrailing_iff]
    rw [isLeading_iff] at first
    omega

end AggregateStage.Json
