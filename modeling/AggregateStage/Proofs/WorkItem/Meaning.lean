import Mathlib.Data.List.Induction
import AggregateStage.Proofs.Json.Numeral
import AggregateStage.WorkItem.Reader

/-! What a document means as a payload, said without a reader. It means nothing if it has
a field twice or of the wrong kind. -/
namespace AggregateStage

namespace Json.Document

variable {α : Type}

def text? : Document → Option String
  | .string units => (ofUtf16? units).map String.ofList
  | _ => none

def number? : Document → Option Float
  | .number n => n.double?
  | _ => none

def numbers? : Document → Option (List Float)
  | .array elements => elements.mapM number?
  | _ => none

/-- Null means a given value, and anything else what it means by itself. -/
def orNull (zero : α) (mean : Document → Option α) : Document → Option α
  | .null => some zero
  | document => mean document

def id? : Document → Option String := orNull "" text?

def eigenvalues? : Document → Option (List Float) := orNull [] numbers?

def score? : Document → Option Float := orNull 0 number?

end Json.Document

open Json

namespace Payload

/-- A member with its name as text. -/
def named? (member : List Nat × Document) : Option (String × Document) :=
  (ofUtf16? member.1).map fun name => (String.ofList name, member.2)

/-- The values of the members of a name. -/
def valuesOf (name : String) (members : List (String × Document)) : List Document :=
  (members.filter fun member => member.1 == name).map Prod.snd

/-- What the values of a field mean: a field left out is null, and none may be there twice. -/
def field? {α : Type} (mean : Document → Option α) : List Document → Option α
  | [] => mean .null
  | [document] => mean document
  | _ => none

/-- Members with other names mean nothing, whatever they hold. -/
def ofMembers? (members : List (String × Document)) : Option Payload := do
  let id ← field? Document.id? (valuesOf "id" members)
  let eigenvalues ← field? Document.eigenvalues? (valuesOf "eigenvalues" members)
  let score ← field? Document.score? (valuesOf "score" members)
  return ⟨id, eigenvalues, score⟩

/-- Elements stand for the fields in their order; what is left out is null. -/
def ofElements? (elements : List Document) : Option Payload :=
  if elements.length ≤ 3 then do
    let id ← (elements[0]?.getD Document.null).id?
    let eigenvalues ← (elements[1]?.getD Document.null).eigenvalues?
    let score ← (elements[2]?.getD Document.null).score?
    return ⟨id, eigenvalues, score⟩
  else none

end Payload

def Json.Document.payload? : Document → Option Payload
  | .null => some .zero
  | .object members => (members.mapM Payload.named?).bind Payload.ofMembers?
  | .array elements => Payload.ofElements? elements
  | _ => none

namespace Payload

/-- What a member adds to the fields met so far. -/
def Draft.add? (draft : Draft) (member : String × Document) : Option Draft :=
  let (name, document) := member
  if draft.has name then none
  else if name = "id" then document.id?.map fun x => { draft with id := some x }
  else if name = "eigenvalues" then
    document.eigenvalues?.map fun x => { draft with eigenvalues := some x }
  else if name = "score" then document.score?.map fun x => { draft with score := some x }
  else some draft

/-- A field as a draft has it after members with given values of its name. -/
def met? {α : Type} (mean : Document → Option α) : List Document → Option (Option α)
  | [] => some none
  | [document] => (mean document).map some
  | _ => none

/-- The draft that members of an object leave, field by field. -/
def Draft.ofMembers? (members : List (String × Document)) : Option Draft := do
  let id ← met? Document.id? (valuesOf "id" members)
  let eigenvalues ← met? Document.eigenvalues? (valuesOf "eigenvalues" members)
  let score ← met? Document.score? (valuesOf "score" members)
  return ⟨id, eigenvalues, score⟩

theorem met?_append {α : Type} (mean : Document → Option α) (values : List Document)
    (document : Document) :
    met? mean (values ++ [document]) =
      (met? mean values).bind fun met => if met.isSome then none else (mean document).map some := by
  match values with
  | [] => rfl
  | [first] => cases met : mean first <;> simp [met?, met]
  | first :: second :: values => simp [met?]

theorem valuesOf_append (name other : String) (document : Document)
    (members : List (String × Document)) :
    valuesOf name (members ++ [(other, document)]) =
      valuesOf name members ++ if other = name then [document] else [] := by
  by_cases same : other = name <;> simp [valuesOf, same]

theorem Draft.add?_id (draft : Draft) (document : Document) :
    draft.add? ("id", document) = if draft.id.isSome then none
      else document.id?.map fun x => { draft with id := some x } := by
  simp [add?, has]

theorem Draft.add?_eigenvalues (draft : Draft) (document : Document) :
    draft.add? ("eigenvalues", document) = if draft.eigenvalues.isSome then none
      else document.eigenvalues?.map fun x => { draft with eigenvalues := some x } := by
  simp [add?, has]

theorem Draft.add?_score (draft : Draft) (document : Document) :
    draft.add? ("score", document) = if draft.score.isSome then none
      else document.score?.map fun x => { draft with score := some x } := by
  simp [add?, has]

theorem Draft.add?_other (draft : Draft) {name : String} (document : Document)
    (notId : name ≠ "id") (notEigenvalues : name ≠ "eigenvalues") (notScore : name ≠ "score") :
    draft.add? (name, document) = some draft := by
  simp [add?, has, notId, notEigenvalues, notScore]

/-- The fields are independent of each other, so a member changes its own only. -/
theorem Draft.ofMembers?_append (members : List (String × Document))
    (member : String × Document) :
    ofMembers? (members ++ [member]) = (ofMembers? members).bind (·.add? member) := by
  obtain ⟨name, document⟩ := member
  simp only [ofMembers?, valuesOf_append]
  -- Of the three lists of values at most one is longer now, and the name says which.
  generalize valuesOf "id" members = ids
  generalize valuesOf "eigenvalues" members = lists
  generalize valuesOf "score" members = scores
  by_cases isId : name = "id"
  · subst isId
    simp only [add?_id, met?_append, List.append_nil, if_true, String.reduceEq, if_false]
    rcases met? Document.id? ids with _ | _ | _ <;>
    rcases met? Document.eigenvalues? lists with _ | _ <;>
    rcases met? Document.score? scores with _ | _ <;>
    rcases document.id? with _ | _ <;> simp
  by_cases isEigenvalues : name = "eigenvalues"
  · subst isEigenvalues
    simp only [add?_eigenvalues, met?_append, List.append_nil, if_true, String.reduceEq, if_false]
    rcases met? Document.id? ids with _ | _ <;>
    rcases met? Document.eigenvalues? lists with _ | _ | _ <;>
    rcases met? Document.score? scores with _ | _ <;>
    rcases document.eigenvalues? with _ | _ <;> simp
  by_cases isScore : name = "score"
  · subst isScore
    simp only [add?_score, met?_append, List.append_nil, if_true, String.reduceEq, if_false]
    rcases met? Document.id? ids with _ | _ <;>
    rcases met? Document.eigenvalues? lists with _ | _ <;>
    rcases met? Document.score? scores with _ | _ | _ <;>
    rcases document.score? with _ | _ <;> simp
  · simp only [add?_other _ document isId isEigenvalues isScore, isId, isEigenvalues, isScore,
      if_false, List.append_nil]
    exact (Option.bind_fun_some _).symm

theorem Draft.foldlM_add? (members : List (String × Document)) :
    members.foldlM Draft.add? .empty = Draft.ofMembers? members := by
  induction members using List.reverseRecOn with
  | nil => rfl
  | append_singleton members member ih =>
    rw [List.foldlM_append, ih, ofMembers?_append]
    simp

/-- What members leave of a draft that are read one after another. -/
def Draft.addAll? (draft : Draft) (members : List (List Nat × Document)) : Option Draft :=
  members.foldlM (fun draft member => (named? member).bind draft.add?) draft

/-- Names may as well be read before all members. -/
theorem Draft.addAll?_eq (draft : Draft) (members : List (List Nat × Document)) :
    draft.addAll? members = (members.mapM named?).bind (·.foldlM Draft.add? draft) := by
  unfold addAll?
  induction members generalizing draft with
  | nil => rfl
  | cons member members ih =>
    simp only [List.foldlM_cons, List.mapM_cons, ih, Option.bind_eq_bind, Option.bind_assoc]
    rcases named? member with _ | named
    · rfl
    · cases members.mapM named? <;> simp

/-- A field that was not met is null. -/
theorem map_met? {α : Type} (zero : α) (mean : Document → Option α) (values : List Document) :
    (met? (Document.orNull zero mean) values).map (·.getD zero) =
      field? (Document.orNull zero mean) values := by
  match values with
  | [] => rfl
  | [document] => simp [met?, field?, Function.comp_def]
  | _ :: _ :: _ => rfl

theorem Draft.payload_ofMembers? (members : List (String × Document)) :
    (Draft.ofMembers? members).map Draft.payload = Payload.ofMembers? members := by
  simp only [Draft.ofMembers?, Payload.ofMembers?, Document.id?, Document.eigenvalues?,
    Document.score?, ← map_met?]
  rcases met? _ (valuesOf "id" members) with _ | _ <;>
  rcases met? _ (valuesOf "eigenvalues" members) with _ | _ <;>
  rcases met? _ (valuesOf "score" members) with _ | _ <;> rfl

/-- Reading members in any order gives what the object means. -/
theorem payload_addAll? (members : List (List Nat × Document)) :
    (Draft.empty.addAll? members).map Draft.payload = (Document.object members).payload? := by
  rw [Draft.addAll?_eq, Document.payload?]
  cases members.mapM named? with
  | none => rfl
  | some members =>
    rw [Option.bind_some, Option.bind_some, Draft.foldlM_add?, Draft.payload_ofMembers?]

end Payload

end AggregateStage
