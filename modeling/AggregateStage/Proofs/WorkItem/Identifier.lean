import AggregateStage.Proofs.WorkItem.Decode

/-! The identifier of a work item as it arrives. Its string is spelled by UTF-16 code units, each
of them in one of several ways; what arrives is the text that is encoded as these units, and
units that are no encoding are refused. -/
namespace AggregateStage

namespace Json

variable {part : Part} {text rest : List Char} {units : List Nat}

/-- Code units have 16 bits. -/
def AreUnits (units : List Nat) : Prop := ∀ unit ∈ units, unit < 0x10000

/-- All strings in a document, and the names of its members, are made of code units. -/
inductive Document.Spelled : Document → Prop
  | null : Spelled .null
  | boolean (value : Bool) : Spelled (.boolean value)
  | number (n : Numeral) : Spelled (.number n)
  | string {units : List Nat} : AreUnits units → Spelled (.string units)
  | array {list : List Document} : (∀ d ∈ list, d.Spelled) → Spelled (.array list)
  | object {list : List (List Nat × Document)} : (∀ member ∈ list, AreUnits member.1) →
      (∀ member ∈ list, member.2.Spelled) → Spelled (.object list)

def Part.Spelled : Part → Prop
  | .value document => document.Spelled
  | .elements list | .moreElements list => ∀ d ∈ list, d.Spelled
  | .members list | .moreMembers list =>
    (∀ member ∈ list, AreUnits member.1) ∧ ∀ member ∈ list, member.2.Spelled

theorem areUnits_utf16 (c : Char) : AreUnits (utf16 c) := by
  have range := toNat_range c
  unfold AreUnits utf16
  split
  all_goals
    intro unit member
    simp only [List.mem_cons, List.not_mem_nil, or_false] at member
    omega

theorem Quoted.areUnits (quoted : Quoted units text rest) : AreUnits units := by
  induction quoted with
  | close => simp [AreUnits]
  | @literal c _ _ _ _ _ _ _ ih =>
    intro unit member
    rcases List.mem_append.mp member with here | later
    · exact areUnits_utf16 c unit here
    · exact ih unit later
  | @short letter c _ _ _ member _ ih =>
    refine List.forall_mem_cons.mpr ⟨?_, ih⟩
    apply areUnits_utf16 c
    simp [utf16_of_short member]
  | unit first second third fourth _ ih =>
    have := first.1
    have := second.1
    have := third.1
    have := fourth.1
    exact List.forall_mem_cons.mpr ⟨by omega, ih⟩

theorem Name.areUnits (name : Name units text rest) : AreUnits units := by
  obtain ⟨-, quoted, -⟩ := name
  exact quoted.areUnits

/-- Text is made of code units only. -/
theorem Writes.spelled (written : Writes part text rest) : part.Spelled := by
  induction written with
  | null => exact .null
  | yes | no => exact .boolean _
  | number => exact .number _
  | string quoted => exact .string quoted.areUnits
  | array _ ih => exact .array ih
  | object _ ih => exact .object ih.1 ih.2
  | noElements | endElements | noMembers | endMembers => simp [Part.Spelled]
  | elements _ _ _ value later => exact List.forall_mem_cons.mpr ⟨value, later⟩
  | members name _ _ _ value later =>
    exact ⟨List.forall_mem_cons.mpr ⟨name.areUnits, later.1⟩,
      List.forall_mem_cons.mpr ⟨value, later.2⟩⟩
  | nextElement _ _ ih | nextMember _ _ ih => exact ih

theorem Document.WrittenAs.spelled {document : Document} (written : document.WrittenAs text) :
    document.Spelled := by
  obtain ⟨_, _, _, value, _⟩ := written
  exact value.spelled

end Json

open Json

namespace Payload

/-- A document with a string for its identifier. -/
inductive Identified (units : List Nat) : Document → Prop
  | member {members : List (List Nat × Document)} :
      ("id".toList.flatMap utf16, .string units) ∈ members → Identified units (.object members)
  | element (more : List Document) : Identified units (.array (.string units :: more))

variable {units : List Nat} {document : Document} {payload : Payload} {text : String}

theorem Identified.areUnits (identified : Identified units document) (spelled : document.Spelled) :
    AreUnits units := by
  have inside {units : List Nat} (string : (Document.string units).Spelled) : AreUnits units := by
    cases string with
    | string units => exact units
  cases identified with
  | member member =>
    cases spelled with
    | object _ all => exact inside (all _ member)
  | element more =>
    cases spelled with
    | array all => exact inside (all _ List.mem_cons_self)

end Payload

end AggregateStage
