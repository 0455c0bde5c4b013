import AggregateStage.Proofs.Json.Skip
import AggregateStage.Proofs.WorkItem.Meaning

/-! The readers of payloads on text that is written. Each one gives what the document
means and goes on behind it, and fails if the document means nothing. -/
namespace AggregateStage

/-- Elements that come first in their array, or behind another one. -/
def Json.Part.elementsFrom : Bool → List Json.Document → Json.Part
  | true => .elements
  | false => .moreElements

namespace Payload

open Json Json.Document

variable {α : Type} {text first named inner behind rest : List Char} {document : Document}
  {list : List Document} {units : List Nat} {members : List (List Nat × Document)}
  {isFirst : Bool} {bound : Nat} {draft : Draft}

theorem readOrNull_of_writes (zero : α) {read : List Char → Except Fault (α × List Char)}
    {mean : Document → Option α} (blanks : Blanks text first)
    (written : Writes (.value document) first rest)
    (reads : (read first).toOption = (mean document).map (·, rest)) :
    (readOrNull zero read text).toOption = (orNull zero mean document).map (·, rest) := by
  have reached := written.reach blanks
  cases written with
  | null => simp [readOrNull, reached, readWord, orNull]
  | number numeral =>
    obtain ⟨c, _, rfl, digit⟩ := numeral.begins
    simp [readOrNull, reached, not_begins_of_digit digit, reads, orNull]
  | _ => simp [readOrNull, reached, reads, orNull]

theorem readText_of_writes (written : Writes (.value document) first rest) :
    (readText first).toOption = document.text?.map (·, rest) := by
  have reached := written.reach (.none _)
  cases written with
  | string quoted => simp [readText, reached, readString_of_quoted quoted, text?, Function.comp_def]
  | number numeral =>
    obtain ⟨c, _, rfl, digit⟩ := numeral.begins
    simp [readText, reached, not_begins_of_digit digit, text?]
  | _ => simp [readText, reached, text?]

theorem readNumber_of_writes (blanks : Blanks text first)
    (written : Writes (.value document) first rest) (stops : Stops rest) :
    (readNumber text).toOption = document.number?.map (·, rest) := by
  have reached := written.reach blanks
  cases written with
  | number numeral =>
    have read := readNumeral_of_written numeral stops
    obtain ⟨c, _, rfl, digit⟩ := numeral.begins
    simpa only [readNumber, reached, digit, if_true, number?] using read
  | _ => simp [readNumber, reached, Decimal.isDigit, number?]

/-! Arrays. -/

theorem nextElement_end (closing : Blanks text (']' :: rest)) :
    nextElement isFirst text = .ok none := by
  simp [nextElement, closing.reach rfl]

theorem closeArray_end (closing : Blanks text (']' :: rest)) : closeArray text = .ok rest := by
  simp [closeArray, closing.reach rfl]

theorem end_of_elementsFrom (written : Writes (.elementsFrom isFirst []) text rest) :
    Blanks text (']' :: rest) := by
  cases isFirst <;> cases written <;> assumption

/-- The element that comes next is found behind its comma, if it needs one. -/
theorem nextElement_cons (written : Writes (.elementsFrom isFirst (document :: list)) text rest) :
    ∃ first behind, nextElement isFirst text = .ok (some first) ∧
      Writes (.value document) first behind ∧ Writes (.elementsFrom false list) behind rest ∧
      first.length ≤ text.length := by
  cases isFirst with
  | true =>
    cases written with
    | elements blanks value more =>
      obtain ⟨c, inner, rfl, begins⟩ := value.begins
      have apart := begins.solid
      refine ⟨_, _, ?_, value, more, blanks.length_le⟩
      simp [nextElement, blanks.reach apart.1, apart.2.1]
  | false =>
    cases written with
    | nextElement comma written =>
      cases written with
      | elements blanks value more =>
        obtain ⟨c, inner, rfl, begins⟩ := value.begins
        have apart := begins.solid
        refine ⟨_, _, ?_, value, more, ?_⟩
        · simp [nextElement, comma.reach rfl, blanks.reach apart.1, apart.2.1]
        · have := comma.length_le
          have := blanks.length_le
          simp only [List.length_cons] at *
          omega

theorem stops_of_elementsFrom (written : Writes (.elementsFrom false list) text rest) :
    Stops text :=
  Writes.stops_elements written

/-- An array that goes on is not closed. -/
theorem closeArray_cons (written : Writes (.elementsFrom false (document :: list)) text rest) :
    (closeArray text).toOption = none := by
  cases written with
  | nextElement comma written =>
    cases written with
    | elements blanks value more =>
      obtain ⟨c, inner, rfl, begins⟩ := value.begins
      have apart := begins.solid
      simp [closeArray, comma.reach rfl, blanks.reach apart.1, apart.2.1]

/-- Every element takes a character, so the bound is not met. -/
theorem readElements_of_writes (written : Writes (.elementsFrom isFirst list) text rest)
    (ready : text.length < bound) :
    (readElements bound isFirst text).toOption = (list.mapM number?).map (·, rest) := by
  induction list generalizing isFirst text bound with
  | nil =>
    obtain ⟨bound, rfl⟩ : ∃ b, bound = b + 1 := ⟨bound - 1, by omega⟩
    have closing := end_of_elementsFrom written
    simp [readElements, nextElement_end closing, closeArray_end closing]
  | cons document list ih =>
    obtain ⟨bound, rfl⟩ : ∃ b, bound = b + 1 := ⟨bound - 1, by omega⟩
    obtain ⟨first, behind, next, value, more, shorter⟩ := nextElement_cons written
    -- A number ends where its reader stops because a comma or a bracket follows.
    have taken := value.length_lt
    have read := readNumber_of_writes (.none first) value (stops_of_elementsFrom more)
    have later : (readElements bound false behind).toOption = _ := ih more (by omega)
    simp only [readElements, next, toOption_bind, toOption_ok, Option.bind_some, read,
      List.mapM_cons]
    cases document.number? with
    | none => rfl
    | some x =>
      simp only [Option.map_some, Option.bind_some, later]
      cases list.mapM number? <;> rfl

theorem readNumbers_of_writes (written : Writes (.value document) first rest) :
    (readNumbers first).toOption = document.numbers?.map (·, rest) := by
  have reached := written.reach (.none _)
  cases written with
  | @array list inner _ elements =>
    have read : (readElements (inner.length + 1) true inner).toOption = _ :=
      readElements_of_writes elements (Nat.lt_succ_self _)
    simpa only [readNumbers, reached, numbers?] using read
  | number numeral =>
    obtain ⟨c, _, rfl, digit⟩ := numeral.begins
    simp [readNumbers, reached, not_begins_of_digit digit, numbers?]
  | _ => simp [readNumbers, reached, numbers?]

/-! Members. -/

theorem readField_of_writes {name : String} (absent : draft.has name = false)
    (blanks : Blanks named first) (written : Writes (.value document) first rest)
    (stops : Stops rest) :
    (draft.readField name named).toOption = (draft.add? (name, document)).map (·, rest) := by
  have id := readOrNull_of_writes "" blanks written (readText_of_writes written)
  have eigenvalues := readOrNull_of_writes [] blanks written (readNumbers_of_writes written)
  have score := readOrNull_of_writes 0 blanks written
    (readNumber_of_writes (.none first) written stops)
  have other := skipValue_of_writes written blanks stops
  simp only [Draft.readField, Draft.add?, absent, Bool.false_eq_true, if_false]
  split
  · simp [id, id?, Function.comp_def]
  · split
    · simp [eigenvalues, eigenvalues?, Function.comp_def]
    · split
      · simp [score, score?, Function.comp_def]
      · simp [other]

theorem readMember_of_writes (quoted : Quoted units inner behind)
    (colon : Blanks behind (':' :: named)) (blanks : Blanks named first)
    (written : Writes (.value document) first rest) (stops : Stops rest) :
    (readMember draft inner).toOption =
      ((named? (units, document)).bind draft.add?).map (·, rest) := by
  simp only [readMember, toOption_bind, readString_of_quoted quoted, named?]
  cases ofUtf16? units with
  | none => rfl
  | some letters =>
    simp only [Option.map_some, Option.bind_some]
    cases has : draft.has (String.ofList letters) with
    | true => simp [Draft.add?, has]
    | false => simp [colon.reach rfl, readField_of_writes has blanks written stops]

theorem readMembers_of_writes (written : Writes (.moreMembers members) text rest)
    (ready : text.length < bound) :
    (readMembers bound draft text).toOption = (draft.addAll? members).map (·, rest) := by
  induction members generalizing draft text bound with
  | nil =>
    obtain ⟨bound, rfl⟩ : ∃ b, bound = b + 1 := ⟨bound - 1, by omega⟩
    cases written with
    | endMembers closing => simp [readMembers, closing.reach rfl, Draft.addAll?]
  | cons member members ih =>
    obtain ⟨bound, rfl⟩ : ∃ b, bound = b + 1 := ⟨bound - 1, by omega⟩
    cases written with
    | nextMember comma written =>
    cases written with
    | @members units document _ inner named first behind _ name blanks value more =>
    -- The name alone takes a character, so the rest is within the smaller bound.
    have shorter : behind.length < bound := by
      have := comma.length_le
      have := name.length_lt
      have := blanks.length_le
      have := value.length_lt
      simp only [List.length_cons] at *
      omega
    obtain ⟨before, quoted, colon⟩ := name
    have read : (readMember draft _).toOption = _ :=
      readMember_of_writes quoted colon blanks value more.stops_members
    simp only [readMembers, comma.reach rfl, before.reach rfl, toOption_bind, read,
      Draft.addAll?, List.foldlM_cons]
    cases (named? (units, document)).bind draft.add? with
    | none => rfl
    | some next => exact ih more shorter

theorem readObject_of_writes (written : Writes (.members members) text rest) :
    (readObject text).toOption = (Draft.empty.addAll? members).map (·, rest) := by
  cases written with
  | noMembers closing => simp [readObject, closing.reach rfl, Draft.addAll?]
  | @members units document list _ named first behind _ name blanks value more =>
    obtain ⟨before, quoted, colon⟩ := name
    have read : (readMember .empty _).toOption = _ :=
      readMember_of_writes quoted colon blanks value more.stops_members
    simp only [readObject, before.reach rfl, toOption_bind, read, Draft.addAll?,
      List.foldlM_cons]
    cases (named? (units, document)).bind Draft.empty.add? with
    | none => rfl
    | some next => exact readMembers_of_writes more (Nat.lt_succ_self _)

/-! Arrays as payloads, from the last element to the first. -/

variable (id : String) (eigenvalues : List Float)

/-- Reads a score, if there is one, and the end of an array. -/
def readThird (cs : List Char) : Except Fault (Draft × List Char) := do
  match ← nextElement false cs with
  | none => return (⟨some id, some eigenvalues, none⟩, ← closeArray cs)
  | some cs =>
    let (score, cs) ← readOrNull 0 readNumber cs
    return (⟨some id, some eigenvalues, some score⟩, ← closeArray cs)

/-- Reads eigenvalues, if there are some, and the rest of an array. -/
def readSecond (cs : List Char) : Except Fault (Draft × List Char) := do
  match ← nextElement false cs with
  | none => return (⟨some id, none, none⟩, ← closeArray cs)
  | some cs =>
    let (eigenvalues, cs) ← readOrNull [] readNumbers cs
    readThird id eigenvalues cs

theorem readArray_eq (cs : List Char) : readArray cs = (do
    match ← nextElement true cs with
    | none => return (.empty, ← closeArray cs)
    | some cs =>
      let (id, cs) ← readOrNull "" readText cs
      readSecond id cs) := rfl

theorem readThird_of_writes (written : Writes (.elementsFrom false list) text rest) :
    ((readThird id eigenvalues text).map fun (draft, rest) => (draft.payload, rest)).toOption =
      (if list.length ≤ 1 then do
        let score ← (list[0]?.getD Document.null).score?
        return ⟨id, eigenvalues, score⟩
      else none).map (·, rest) := by
  match list, written with
  | [], written =>
    have closing := end_of_elementsFrom written
    simp only [readThird, nextElement_end closing, closeArray_end closing]
    rfl
  | document :: list, written =>
    obtain ⟨first, behind, next, value, more, -⟩ := nextElement_cons written
    have read := readOrNull_of_writes 0 (.none _) value
      (readNumber_of_writes (.none _) value (stops_of_elementsFrom more))
    simp only [readThird, next, toOption_map, toOption_bind, toOption_ok, Option.bind_some, read]
    match list, more with
    | [], more =>
      simp only [Option.bind_map, Function.comp_def, closeArray_end (end_of_elementsFrom more)]
      change _ = (document.score?.bind _).map _
      rw [score?]
      cases orNull 0 number? document <;> rfl
    -- A fourth element is found when the array should close.
    | _ :: _, more => simp [closeArray_cons more]

theorem readSecond_of_writes (written : Writes (.elementsFrom false list) text rest) :
    ((readSecond id text).map fun (draft, rest) => (draft.payload, rest)).toOption =
      (if list.length ≤ 2 then do
        let eigenvalues ← (list[0]?.getD Document.null).eigenvalues?
        let score ← (list[1]?.getD Document.null).score?
        return ⟨id, eigenvalues, score⟩
      else none).map (·, rest) := by
  match list, written with
  | [], written =>
    have closing := end_of_elementsFrom written
    simp only [readSecond, nextElement_end closing, closeArray_end closing]
    rfl
  | document :: list, written =>
    obtain ⟨first, behind, next, value, more, -⟩ := nextElement_cons written
    have read := readOrNull_of_writes [] (.none _) value (readNumbers_of_writes value)
    change _ = document.eigenvalues?.map _ at read
    simp only [readSecond, next, toOption_map, toOption_bind, toOption_ok, Option.bind_some, read]
    cases mean : document.eigenvalues? with
    | none => simp [mean]
    | some eigenvalues =>
      have third := readThird_of_writes id eigenvalues more
      rw [toOption_map] at third
      simp [third, mean]

theorem readArray_of_writes (written : Writes (.elements list) text rest) :
    ((readArray text).map fun (draft, rest) => (draft.payload, rest)).toOption =
      (ofElements? list).map (·, rest) := by
  rw [readArray_eq]
  match list, (show Writes (.elementsFrom true list) text rest from written) with
  | [], written =>
    have closing := end_of_elementsFrom written
    simp only [nextElement_end closing, closeArray_end closing]
    rfl
  | document :: list, written =>
    obtain ⟨first, behind, next, value, more, -⟩ := nextElement_cons written
    have read := readOrNull_of_writes "" (.none _) value (readText_of_writes value)
    change _ = document.id?.map _ at read
    simp only [next, toOption_map, toOption_bind, toOption_ok, Option.bind_some, read]
    cases mean : document.id? with
    | none => simp [mean, ofElements?]
    | some id =>
      have second := readSecond_of_writes id more
      rw [toOption_map] at second
      have short : (document :: list).length ≤ 3 ↔ list.length ≤ 2 := by
        rw [List.length_cons]
        omega
      simp only [ofElements?, short]
      simp [second, mean]

/-! Payloads. -/

theorem read_of_writes (blanks : Blanks text first)
    (written : Writes (.value document) first rest) :
    (read text).toOption = document.payload?.map (·, rest) := by
  have reached := written.reach blanks
  cases written with
  | null => simp [read, reached, readWord, payload?]
  | number numeral =>
    obtain ⟨c, _, rfl, digit⟩ := numeral.begins
    simp [read, reached, not_begins_of_digit digit, payload?]
  | array elements => simpa only [read, reached, payload?] using readArray_of_writes elements
  | @object members _ _ written =>
    simp only [read, reached, toOption_map, readObject_of_writes written, ← payload_addAll?]
    cases Draft.empty.addAll? members <;> rfl
  | _ => simp [read, reached, payload?]

theorem readAll_of_written (written : document.WrittenAs text) :
    (readAll text).toOption = document.payload? := by
  obtain ⟨first, behind, before, value, after⟩ := written
  simp only [readAll, toOption_bind, read_of_writes before value]
  cases document.payload? <;> simp [after.reach_end]

end Payload

end AggregateStage
