import AggregateStage.Proofs.WorkItem.Meaning

/-! The documents that are payloads, by their shape, and that these are the ones that mean
something. -/
namespace AggregateStage

open Json

namespace Json.Document

/-- A string whose surrogates are paired, or null. -/
inductive IsText : Document → Prop
  | null : IsText .null
  | string {units : List Nat} {s : List Char} : ofUtf16? units = some s → IsText (.string units)

/-- A number in range. -/
inductive IsNumber : Document → Prop
  | number {n : Numeral} {x : Float} : n.double? = some x → IsNumber (.number n)

/-- An array of numbers in range, or null. -/
inductive IsNumbers : Document → Prop
  | null : IsNumbers .null
  | array {elements : List Document} : (∀ element ∈ elements, element.IsNumber) →
      IsNumbers (.array elements)

/-- The values of the members whose name says a name, however it is spelled. -/
def named (name : String) (members : List (List Nat × Document)) : List Document :=
  (members.filter fun member => ofUtf16? member.1 = some name.toList).map Prod.snd

/-- At most one value, which is of a kind. -/
def AtMostOne (kind : Document → Prop) (values : List Document) : Prop :=
  values.length ≤ 1 ∧ ∀ value ∈ values, kind value

/-- The documents that are payloads. Members with other names may hold anything. -/
inductive WellFormed : Document → Prop
  | null : WellFormed .null
  | object {members : List (List Nat × Document)} :
      (∀ member ∈ members, (ofUtf16? member.1).isSome) →
      AtMostOne IsText (named "id" members) →
      AtMostOne IsNumbers (named "eigenvalues" members) →
      AtMostOne (fun value => value = .null ∨ value.IsNumber) (named "score" members) →
      WellFormed (.object members)
  | array {elements : List Document} :
      elements.length ≤ 3 →
      (∀ value ∈ elements[0]?, value.IsText) →
      (∀ value ∈ elements[1]?, value.IsNumbers) →
      (∀ value ∈ elements[2]?, value = .null ∨ value.IsNumber) →
      WellFormed (.array elements)

variable {document : Document}

theorem isText_iff : document.IsText ↔ document.id?.isSome := by
  constructor
  · rintro (_ | found)
    · rfl
    · simp [id?, orNull, text?, found]
  · intro means
    cases document with
    | null => exact .null
    | string units =>
      obtain ⟨s, found⟩ := Option.isSome_iff_exists.mp means
      obtain ⟨letters, found, _⟩ := Option.map_eq_some_iff.mp found
      exact .string found
    | _ => simp [id?, orNull, text?] at means

theorem isNumber_iff : document.IsNumber ↔ document.number?.isSome := by
  constructor
  · rintro ⟨found⟩
    simp [number?, found]
  · intro means
    cases document with
    | number n =>
      obtain ⟨x, found⟩ := Option.isSome_iff_exists.mp means
      exact .number found
    | _ => simp [number?] at means

theorem mapM_isSome {α β : Type} (f : α → Option β) (list : List α) :
    (list.mapM f).isSome ↔ ∀ x ∈ list, (f x).isSome := by
  induction list with
  | nil => simp
  | cons x list ih =>
    rw [List.forall_mem_cons, ← ih, List.mapM_cons]
    cases f x with
    | none => simp
    | some y => cases list.mapM f <;> simp

theorem isNumbers_iff : document.IsNumbers ↔ document.eigenvalues?.isSome := by
  constructor
  · rintro (_ | all)
    · rfl
    · simp only [eigenvalues?, orNull, numbers?, mapM_isSome]
      exact fun element member => isNumber_iff.mp (all element member)
  · intro means
    cases document with
    | null => exact .null
    | array elements =>
      simp only [eigenvalues?, orNull, numbers?, mapM_isSome] at means
      exact .array fun element member => isNumber_iff.mpr (means element member)
    | _ => simp [eigenvalues?, orNull, numbers?] at means

theorem isScore_iff : document = .null ∨ document.IsNumber ↔ document.score?.isSome := by
  rw [isNumber_iff]
  cases document <;> simp [score?, orNull, number?]

end Json.Document

namespace Payload

open Json.Document

variable {α : Type} {kind : Document → Prop} {mean : Document → Option α}

theorem atMostOne_iff (zero : (mean .null).isSome) (same : ∀ {d}, kind d ↔ (mean d).isSome)
    (values : List Document) : AtMostOne kind values ↔ (field? mean values).isSome := by
  match values with
  | [] => simp [AtMostOne, field?, zero]
  | [value] => simp [AtMostOne, field?, same]
  | _ :: _ :: _ => simp [AtMostOne, field?]

theorem forall_getElem?_iff (zero : (mean .null).isSome)
    (same : ∀ {d}, kind d ↔ (mean d).isSome) (elements : List Document) (i : Nat) :
    (∀ value ∈ elements[i]?, kind value) ↔ (mean (elements[i]?.getD Document.null)).isSome := by
  cases elements[i]? with
  | none => simp [zero]
  | some value => simp [same]

/-- Members by their names as text are members by their units. -/
theorem valuesOf_mapM_named? (name : String) {members : List (List Nat × Document)}
    {found : List (String × Document)} (names : members.mapM named? = some found) :
    valuesOf name found = named name members := by
  induction members generalizing found with
  | nil =>
    cases names
    rfl
  | cons member members ih =>
    rw [List.mapM_cons] at names
    obtain ⟨first, head, names⟩ := Option.bind_eq_some_iff.mp names
    obtain ⟨more, tail, names⟩ := Option.bind_eq_some_iff.mp names
    cases names
    obtain ⟨letters, spelled, rfl⟩ := Option.map_eq_some_iff.mp head
    have same : String.ofList letters = name ↔ letters = name.toList := by
      rw [← String.toList_inj, String.toList_ofList]
    have rest := ih tail
    by_cases hit : letters = name.toList
    · simp_all [valuesOf, named]
    · simp_all [valuesOf, named]

theorem ofMembers?_isSome (members : List (String × Document)) :
    (ofMembers? members).isSome ↔ (field? Document.id? (valuesOf "id" members)).isSome ∧
      (field? Document.eigenvalues? (valuesOf "eigenvalues" members)).isSome ∧
      (field? Document.score? (valuesOf "score" members)).isSome := by
  unfold ofMembers?
  cases field? Document.id? (valuesOf "id" members) with
  | none => simp
  | some id =>
    cases field? Document.eigenvalues? (valuesOf "eigenvalues" members) with
    | none => simp
    | some eigenvalues => cases field? Document.score? (valuesOf "score" members) <;> simp

theorem ofElements?_isSome (elements : List Document) :
    (ofElements? elements).isSome ↔ elements.length ≤ 3 ∧
      (elements[0]?.getD Document.null).id?.isSome ∧
      (elements[1]?.getD Document.null).eigenvalues?.isSome ∧
      (elements[2]?.getD Document.null).score?.isSome := by
  unfold ofElements?
  by_cases short : elements.length ≤ 3
  · cases (elements[0]?.getD Document.null).id? with
    | none => simp
    | some id =>
      cases (elements[1]?.getD Document.null).eigenvalues? with
      | none => simp
      | some eigenvalues =>
        cases (elements[2]?.getD Document.null).score? <;> simp [short]
  · simp [short]

theorem wellFormed_object_iff (members : List (List Nat × Document)) :
    (Document.object members).WellFormed ↔ (Document.object members).payload?.isSome := by
  have readable : (∀ member ∈ members, (ofUtf16? member.1).isSome) ↔
      (members.mapM named?).isSome := by
    simp [mapM_isSome, named?]
  have shape : (Document.object members).WellFormed ↔ (members.mapM named?).isSome ∧
      AtMostOne IsText (named "id" members) ∧
      AtMostOne IsNumbers (named "eigenvalues" members) ∧
      AtMostOne (fun value => value = .null ∨ value.IsNumber) (named "score" members) := by
    rw [← readable]
    constructor
    · rintro (_ | ⟨names, id, eigenvalues, score⟩)
      exact ⟨names, id, eigenvalues, score⟩
    · rintro ⟨names, id, eigenvalues, score⟩
      exact .object names id eigenvalues score
  rw [shape, payload?]
  cases names : members.mapM named? with
  | none => simp
  | some found =>
    rw [Option.bind_some, ofMembers?_isSome, valuesOf_mapM_named? "id" names,
      valuesOf_mapM_named? "eigenvalues" names, valuesOf_mapM_named? "score" names,
      atMostOne_iff rfl isText_iff, atMostOne_iff rfl isNumbers_iff, atMostOne_iff rfl isScore_iff]
    simp

theorem wellFormed_array_iff (elements : List Document) :
    (Document.array elements).WellFormed ↔ (Document.array elements).payload?.isSome := by
  have id := forall_getElem?_iff (show (Document.id? .null).isSome from rfl) isText_iff elements 0
  have eigenvalues := forall_getElem?_iff (show (Document.eigenvalues? .null).isSome from rfl)
    isNumbers_iff elements 1
  have score := forall_getElem?_iff (show (Document.score? .null).isSome from rfl) isScore_iff
    elements 2
  rw [payload?, ofElements?_isSome, ← id, ← eigenvalues, ← score]
  constructor
  · rintro (_ | _ | ⟨short, id, eigenvalues, score⟩)
    exact ⟨short, id, eigenvalues, score⟩
  · rintro ⟨short, id, eigenvalues, score⟩
    exact .array short id eigenvalues score

/-- A document is well formed if and only if it means a payload. -/
theorem wellFormed_iff (document : Document) :
    document.WellFormed ↔ ∃ payload, document.payload? = some payload := by
  rw [← Option.isSome_iff_exists]
  cases document with
  | null => exact ⟨fun _ => rfl, fun _ => .null⟩
  | object members => exact wellFormed_object_iff members
  | array elements => exact wellFormed_array_iff elements
  | _ =>
    constructor
    · intro shape
      cases shape
    · intro means
      simp [payload?] at means

end Payload

end AggregateStage
