import AggregateStage.Accumulator
import AggregateStage.Proofs.Json.Extent
import AggregateStage.Proofs.WorkItem.Acceptance
import AggregateStage.Proofs.WorkItem.WellFormed

/-! Decoding takes the texts of well-formed documents for what they mean, and no others. -/
namespace AggregateStage.Payload

open Json

variable {document : Document} {text : String}

theorem toOption_decode (text : String) : (decode text).toOption = (readAll text.toList).toOption := by
  unfold decode
  cases readAll text.toList <;> rfl

theorem decode_toOption (written : document.WrittenAs text.toList) :
    (decode text).toOption = document.payload? := by
  rw [toOption_decode, readAll_of_written written]

/-- What is decoded is the meaning of a document that the text is written for. -/
theorem written_of_decode {payload : Payload} (decoded : decode text = .ok payload) :
    ∃ document : Document, document.WrittenAs text.toList ∧ document.payload? = some payload := by
  have read : (readAll text.toList).toOption = some payload := by
    rw [← toOption_decode, decoded, toOption_ok]
  obtain ⟨document, written⟩ := written_of_readAll (toOption_eq_some.mp read)
  refine ⟨document, written, ?_⟩
  rw [← decode_toOption written, decoded, toOption_ok]

/-- No payload comes of a text, and no state takes anything from a work item with it. -/
def Rejected (text : String) : Prop :=
  (∃ error, decode text = .error error) ∧
    ∀ (a : Accumulator) (value : Int64), a.observe ⟨workItemType, value, text⟩ = a

theorem rejected_of_error {error : PayloadError} (failed : decode text = .error error) :
    Rejected text := by
  refine ⟨⟨error, failed⟩, ?_⟩
  intro a value
  simp [Accumulator.observe, Accumulator.absorb, Event.observation, Event.isWorkItem,
    ScoredItem.decode, failed, Except.map]

theorem rejected_of_not_wellFormed
    (malformed : ∀ document : Document, document.WrittenAs text.toList → ¬ document.WellFormed) :
    Rejected text := by
  cases decoded : decode text with
  | error => exact rejected_of_error decoded
  | ok payload =>
    obtain ⟨document, written, meaning⟩ := written_of_decode decoded
    have shape := (wellFormed_iff document).mpr ⟨payload, meaning⟩
    exact absurd shape (malformed document written)

theorem rejected_of_written (written : document.WrittenAs text.toList)
    (malformed : ¬ document.WellFormed) : Rejected text := by
  cases decoded : decode text with
  | error => exact rejected_of_error decoded
  | ok payload =>
    -- A text may be written for several documents, but they all mean the same.
    have meaning := decode_toOption written
    rw [decoded, toOption_ok] at meaning
    exact absurd ((wellFormed_iff document).mpr ⟨payload, meaning.symm⟩) malformed

/-- A well-formed document is no number, so its end is where its text says. -/
theorem ne_number_of_wellFormed (shape : document.WellFormed) (n : Numeral) :
    document ≠ .number n := by
  rintro rfl
  cases shape

theorem rejected_of_cut {first behind more : List Char} (shape : document.WellFormed)
    (blanks : Blanks (text.toList ++ more) first) (value : Writes (.value document) first behind)
    (cut : behind.length < more.length) : Rejected text := by
  apply rejected_of_not_wellFormed
  rintro another ⟨start, rest, before, again, after⟩ alsoShape
  have same := Writes.rest_append before again blanks value (ne_number_of_wellFormed alsoShape)
    (ne_number_of_wellFormed shape)
  rw [same, List.length_append] at cut
  omega

theorem rejected_of_trailing {whole more : List Char} {c : Char} (shape : document.WellFormed)
    (written : document.WrittenAs whole) (solid : ¬ IsBlank c)
    (longer : text.toList = whole ++ c :: more) : Rejected text := by
  apply rejected_of_not_wellFormed
  rintro another ⟨start, rest, before, again, after⟩ alsoShape
  obtain ⟨first, behind, blanks, value, _⟩ := written
  rw [longer] at before
  have same := Writes.rest_append blanks value before again (ne_number_of_wellFormed shape)
    (ne_number_of_wellFormed alsoShape)
  rw [same] at after
  exact solid (after.all_blank (by simp))

/-- A text is rejected if it is written for no well-formed document, and so is one that is
written for another document, is cut off before its document ends, or goes on behind it. -/
theorem decode_rejects (text : String) :
    ((∀ document : Document, document.WrittenAs text.toList → ¬ document.WellFormed) →
      Rejected text) ∧
    (∀ document : Document, document.WrittenAs text.toList → ¬ document.WellFormed →
      Rejected text) ∧
    (∀ (document : Document) (first behind more : List Char), document.WellFormed →
      Blanks (text.toList ++ more) first → Writes (.value document) first behind →
      behind.length < more.length → Rejected text) ∧
    ∀ (document : Document) (whole more : List Char) (c : Char), document.WellFormed →
      document.WrittenAs whole → ¬ IsBlank c → text.toList = whole ++ c :: more →
      Rejected text := by
  refine ⟨rejected_of_not_wellFormed, fun _ => rejected_of_written, ?_, ?_⟩
  · intro document first behind more shape blanks value cut
    exact rejected_of_cut shape blanks value cut
  · intro document whole more c shape written solid longer
    exact rejected_of_trailing shape written solid longer

/-- A name counts twice when it is spelled in two ways, and null counts as an occurrence. -/
theorem decode_rejects_twice : Rejected "\x7b\"id\":null,\"\\u0069d\":\"\"\x7d" := by
  let document : Document := .object [([0x69, 0x64], .null), ([0x69, 0x64], .string [])]
  have malformed : ¬ document.WellFormed := by
    rw [wellFormed_iff]
    rintro ⟨payload, meaning⟩
    have none : document.payload? = none := by decide +kernel
    rw [none] at meaning
    cases meaning
  refine (decode_rejects _).2.1 document ?_ malformed
  have spelled : "\x7b\"id\":null,\"\\u0069d\":\"\"\x7d".toList = ['\x7b', '"', 'i', 'd', '"', ':',
      'n', 'u', 'l', 'l', ',', '"', '\\', 'u', '0', '0', '6', '9', 'd', '"', ':', '"', '"',
      '\x7d'] := by decide +kernel
  rw [spelled]
  have plain (rest : List Char) : Quoted [0x69, 0x64] ('i' :: 'd' :: '"' :: rest) rest :=
    Quoted.plain (s := ['i', 'd']) rfl rest
  have escaped (rest : List Char) :
      Quoted [0x69, 0x64] ('\\' :: 'u' :: '0' :: '0' :: '6' :: '9' :: 'd' :: '"' :: rest) rest :=
    .unit' rfl (Quoted.plain (s := ['d']) rfl rest)
  exact ⟨_, [], .none _, .object (.members (.colon (.none _) (plain _) (.none _)) (.none _)
    (.null _) (.nextMember (.none _) (.members (.colon (.none _) (escaped _) (.none _)) (.none _)
      (.string (.close _)) (.endMembers (.none _))))), .none _⟩

end AggregateStage.Payload
