import AggregateStage.Proofs.Json.Significand
import AggregateStage.Proofs.WorkItem.Decode

/-! The doubles of a work item as they arrive. A number in a payload is taken for what its
numeral rounds to, which need not be the double that was printed. -/
namespace AggregateStage

open Json Binary64

/-- The places of a payload that hold a number. -/
inductive Payload.Slot where
  | score
  | eigenvalue (i : ℕ)
  deriving DecidableEq, Repr

/-- A nought without a sign. -/
def Json.Numeral.zero : Numeral := ⟨false, ['0'], [], none⟩

namespace Payload

/-- The number in a place. -/
def at? (payload : Payload) : Slot → Option Float
  | .score => some payload.score
  | .eigenvalue i => payload.eigenvalues[i]?

/-- What a document has around the place of a number. -/
inductive Around : Slot → (Document → Document) → Prop
  | score {before after : List (List Nat × Document)} {name : List Nat} :
      ofUtf16? name = some "score".toList →
      Around .score fun d => .object (before ++ (name, d) :: after)
  | lastElement (id eigenvalues : Document) : Around .score fun d => .array [id, eigenvalues, d]
  | eigenvalue {before after : List (List Nat × Document)} {name : List Nat}
      {left right : List Document} : ofUtf16? name = some "eigenvalues".toList →
      Around (.eigenvalue left.length) fun d =>
        .object (before ++ (name, .array (left ++ d :: right)) :: after)
  | innerElement {left right : List Document} (id : Document) (more : List Document) :
      Around (.eigenvalue left.length) fun d => .array (id :: .array (left ++ d :: right) :: more)

variable {α : Type} {mean : Document → Option α} {before after : List (String × Document)}
  {document other : Document} {payload : Payload}

theorem valuesOf_around (name own : String) (document : Document) :
    valuesOf name (before ++ (own, document) :: after) = valuesOf name before ++
      (if own = name then [document] else []) ++ valuesOf name after := by
  by_cases same : own = name <;> simp [valuesOf, same]

/-- A field that is there has no other value. -/
theorem alone_of_field? {first last : List Document} {x : α}
    (found : field? mean (first ++ [document] ++ last) = some x) : first = [] ∧ last = [] := by
  have short : ∀ values : List Document, field? mean values = some x → values.length ≤ 1
    | [], _ | [_], _ => by simp
  have length := short _ found
  simp only [List.length_append, List.length_singleton] at length
  exact ⟨List.length_eq_zero_iff.mp (by omega), List.length_eq_zero_iff.mp (by omega)⟩

theorem ofMembers?_score
    (meaning : ofMembers? (before ++ ("score", document) :: after) = some payload)
    (other : Document) : ofMembers? (before ++ ("score", other) :: after) =
      other.score?.map fun x => { payload with score := x } := by
  simp only [ofMembers?, valuesOf_around, String.reduceEq, if_false, if_true, List.append_nil]
    at meaning ⊢
  obtain ⟨id, first, meaning⟩ := Option.bind_eq_some_iff.mp meaning
  obtain ⟨eigenvalues, second, meaning⟩ := Option.bind_eq_some_iff.mp meaning
  obtain ⟨score, third, meaning⟩ := Option.bind_eq_some_iff.mp meaning
  cases meaning
  obtain ⟨none, none'⟩ := alone_of_field? third
  rw [first, second, none, none']
  cases found : other.score? <;> simp [field?, found]

theorem ofMembers?_eigenvalues
    (meaning : ofMembers? (before ++ ("eigenvalues", document) :: after) = some payload)
    (other : Document) : ofMembers? (before ++ ("eigenvalues", other) :: after) =
      other.eigenvalues?.map fun list => { payload with eigenvalues := list } := by
  simp only [ofMembers?, valuesOf_around, String.reduceEq, if_false, if_true, List.append_nil]
    at meaning ⊢
  obtain ⟨id, first, meaning⟩ := Option.bind_eq_some_iff.mp meaning
  obtain ⟨eigenvalues, second, meaning⟩ := Option.bind_eq_some_iff.mp meaning
  obtain ⟨score, third, meaning⟩ := Option.bind_eq_some_iff.mp meaning
  cases meaning
  obtain ⟨none, none'⟩ := alone_of_field? second
  rw [first, third, none, none']
  cases found : other.eigenvalues? <;> simp [field?, found]

/-- One element of a list can be exchanged where all others mean something. -/
theorem mapM_around {α β : Type} {f : α → Option β} {left right : List α} {x : α} {list : List β}
    (found : (left ++ x :: right).mapM f = some list) : ∃ first last : List β,
    first.length = left.length ∧
      ∀ y, (left ++ y :: right).mapM f = (f y).map fun z => first ++ z :: last := by
  induction left generalizing list with
  | nil =>
    rw [List.nil_append, List.mapM_cons] at found
    obtain ⟨_, -, found⟩ := Option.bind_eq_some_iff.mp found
    obtain ⟨last, tail, -⟩ := Option.bind_eq_some_iff.mp found
    refine ⟨[], last, rfl, fun y => ?_⟩
    rw [List.nil_append, List.mapM_cons, tail]
    cases f y <;> rfl
  | cons z left ih =>
    rw [List.cons_append, List.mapM_cons] at found
    obtain ⟨head, here, found⟩ := Option.bind_eq_some_iff.mp found
    obtain ⟨_, tail, -⟩ := Option.bind_eq_some_iff.mp found
    obtain ⟨first, last, length, exchange⟩ := ih tail
    refine ⟨head :: first, last, congrArg (· + 1) length, fun y => ?_⟩
    rw [List.cons_append, List.mapM_cons, here, exchange]
    cases f y <;> rfl

theorem eigenvalues?_around {left right : List Document} {list : List Float}
    (meaning : (Document.array (left ++ document :: right)).eigenvalues? = some list) :
    ∃ first last : List Float, first.length = left.length ∧ ∀ other,
      (Document.array (left ++ other :: right)).eigenvalues? =
        other.number?.map fun x => first ++ x :: last :=
  mapM_around meaning

/-- Names mean the same whatever stands behind one of them. -/
theorem exists_members {before after : List (List Nat × Document)} {name : List Nat} {own : String}
    (spelled : ofUtf16? name = some own.toList)
    (meaning : (Document.object (before ++ (name, document) :: after)).payload? = some payload) :
    ∃ first last : List (String × Document), ∀ other,
      (Document.object (before ++ (name, other) :: after)).payload? =
        ofMembers? (first ++ (own, other) :: last) := by
  obtain ⟨members, names, -⟩ := Option.bind_eq_some_iff.mp meaning
  obtain ⟨first, last, -, exchange⟩ := mapM_around names
  refine ⟨first, last, fun other => ?_⟩
  have here : named? (name, other) = some (own, other) := by
    simp only [named?, spelled, Option.map_some, String.ofList_toList]
  rw [Document.payload?, exchange, here]
  rfl

theorem payload?_array {id eigenvalues : Document} {more : List Document} (short : more.length ≤ 1) :
    (Document.array (id :: eigenvalues :: more)).payload? =
      id.id?.bind fun text => eigenvalues.eigenvalues?.bind fun list =>
        (more[0]?.getD Document.null).score?.map fun x => ⟨text, list, x⟩ := by
  have fits : (id :: eigenvalues :: more).length ≤ 3 := by
    rw [List.length_cons, List.length_cons]
    omega
  rw [Document.payload?, ofElements?, if_pos fits]
  show (id.id?.bind fun text => eigenvalues.eigenvalues?.bind fun list =>
    (more[0]?.getD Document.null).score?.bind fun x => some (Payload.mk text list x)) = _
  simp only [Option.map_eq_bind]
  rfl

theorem length_le_of_array {id eigenvalues : Document} {more : List Document}
    (meaning : (Document.array (id :: eigenvalues :: more)).payload? = some payload) :
    more.length ≤ 1 := by
  by_contra long
  have beyond : ¬ (id :: eigenvalues :: more).length ≤ 3 := by
    rw [List.length_cons, List.length_cons]
    omega
  rw [Document.payload?, ofElements?, if_neg beyond] at meaning
  cases meaning

/-- A document around the place of a number means a payload with the number in that place. -/
theorem exists_fill {slot : Slot} {frame : Document → Document} (around : Around slot frame)
    (meaning : (frame document).payload? = some payload) : ∃ fill : Float → Payload,
    (∀ x, (fill x).at? slot = some x) ∧
      ∀ n : Numeral, (frame (.number n)).payload? = n.double?.map fill := by
  have placed {first last : List Float} {left : List Document}
      (length : first.length = left.length) (x : Float) :
      (first ++ x :: last)[left.length]? = some x := by
    rw [← length, List.getElem?_append_right le_rfl, Nat.sub_self]
    rfl
  cases around with
  | score spelled =>
    obtain ⟨first, last, renamed⟩ := exists_members spelled meaning
    rw [renamed] at meaning
    refine ⟨fun x => { payload with score := x }, fun _ => rfl, fun n => ?_⟩
    exact (renamed _).trans (ofMembers?_score meaning _)
  | lastElement id eigenvalues =>
    rw [payload?_array le_rfl] at meaning
    obtain ⟨text, first, meaning⟩ := Option.bind_eq_some_iff.mp meaning
    obtain ⟨list, second, -⟩ := Option.bind_eq_some_iff.mp meaning
    refine ⟨fun x => ⟨text, list, x⟩, fun _ => rfl, fun n => ?_⟩
    rw [payload?_array le_rfl, first, second]
    rfl
  | eigenvalue spelled =>
    obtain ⟨first, last, renamed⟩ := exists_members spelled meaning
    have meaning' := meaning
    rw [renamed] at meaning
    have exchange := ofMembers?_eigenvalues meaning
    rw [renamed, exchange] at meaning'
    obtain ⟨list, found, -⟩ := Option.map_eq_some_iff.mp meaning'
    obtain ⟨head, tail, length, exchange'⟩ := eigenvalues?_around found
    refine ⟨fun x => { payload with eigenvalues := head ++ x :: tail }, placed length, fun n => ?_⟩
    rw [renamed, exchange, exchange', Option.map_map]
    rfl
  | innerElement id more =>
    have short := length_le_of_array meaning
    rw [payload?_array short] at meaning
    obtain ⟨text, first, meaning⟩ := Option.bind_eq_some_iff.mp meaning
    obtain ⟨list, second, meaning⟩ := Option.bind_eq_some_iff.mp meaning
    obtain ⟨score, third, -⟩ := Option.map_eq_some_iff.mp meaning
    obtain ⟨head, tail, length, exchange⟩ := eigenvalues?_around second
    refine ⟨fun x => ⟨text, head ++ x :: tail, score⟩, placed length, fun n => ?_⟩
    rw [payload?_array short, first, third, exchange]
    cases found : n.double? <;> simp [Document.number?, found]

/-- The double in a place of the payload that a text is decoded to. -/
def Arrives (text : String) (slot : Slot) (x : Float) : Prop :=
  ∃ payload, decode text = .ok payload ∧ payload.at? slot = some x

section Decoding

variable {slot : Slot} {frame : Document → Document} {n : Numeral} {text : String}

/-- A number in its place is decoded with what is around it, or else nothing is. -/
theorem arrives_iff (around : Around slot frame)
    (meaning : (frame document).payload? = some payload)
    (written : (frame (.number n)).WrittenAs text.toList) :
    ((∃ payload, decode text = .ok payload) ↔ ∃ x, n.double? = some x) ∧
      ∀ x, Arrives text slot x ↔ n.double? = some x := by
  obtain ⟨fill, placed, filled⟩ := exists_fill around meaning
  have decoded := (decode_toOption written).trans (filled n)
  have forward {payload : Payload} (found : decode text = .ok payload) :
      ∃ x, n.double? = some x ∧ fill x = payload := by
    rw [found, toOption_ok] at decoded
    exact Option.map_eq_some_iff.mp decoded.symm
  have backward {x : Float} (same : n.double? = some x) : decode text = .ok (fill x) := by
    rw [same, Option.map_some] at decoded
    exact toOption_eq_some.mp decoded
  refine ⟨⟨?_, ?_⟩, fun x => ⟨?_, ?_⟩⟩
  · rintro ⟨payload, found⟩
    obtain ⟨x, same, -⟩ := forward found
    exact ⟨x, same⟩
  · rintro ⟨x, same⟩
    exact ⟨fill x, backward same⟩
  · rintro ⟨payload, found, here⟩
    obtain ⟨z, same, rfl⟩ := forward found
    rw [placed, Option.some_inj] at here
    rw [same, here]
  · intro same
    exact ⟨fill x, backward same, placed x⟩

/-- The value of a number whose digits fit into 64 bits, in a place of a payload that has the form
of one with a zero there. The text is decoded if its digits and its power of ten round to less than
the doubles end at, and the double of its sign arrives that holds what they round to. Where doubles
have both exactly, or there is no power of ten, the double nearest to what is written arrives. -/
theorem number_arrives_iff (around : Around slot frame)
    (shape : (frame (.number .zero)).WellFormed) (fits : n.number < 2 ^ 64)
    (small : n.exponentValue.natAbs < 2 ^ 31)
    (bounds : 0 < n.number → -616 ≤ n.power ∧ n.power ≤ 308)
    (written : (frame (.number n)).WrittenAs text.toList) :
    ((∃ payload, decode text = .ok payload) ↔ taken n.number n.power < overflow) ∧
      (∀ y, IsFinite y → (Arrives text slot y ↔
        negative y = n.negative ∧ Holds y (taken n.number n.power))) ∧
      (n.power = 0 ∨ n.number ≤ 2 ^ 53 ∧ n.power.natAbs ≤ 22 → ∀ y, IsFinite y →
        (Arrives text slot y ↔ negative y = n.negative ∧ Holds y n.size)) := by
  obtain ⟨payload, meaning⟩ := (wellFormed_iff _).mp shape
  obtain ⟨decoded, arrives⟩ := arrives_iff around meaning written
  obtain ⟨ranged, read, nearest⟩ := Numeral.double?_eq_iff_of_fits fits small bounds
  refine ⟨decoded.trans ranged, fun y result => ?_, fun safe y result => ?_⟩
  · rw [arrives, read y result]
  · rw [arrives, nearest safe y result]

/-- A double is printed in its shortest digits into a payload that has the form of one with a zero
in that place. If what its digits and its power of ten round to is not beyond the doubles, the
text is decoded and the double of its sign that holds this arrives; else the text is refused.
So it arrives as itself only if it holds this too. It does where the digits have no power of ten
to them, and where doubles have both the digits and the power of ten. -/
theorem printed_double_arrives_iff {x : Float} (around : Around slot frame)
    (shape : (frame (.number .zero)).WellFormed) (finite : IsFinite x) (printed : n.Prints x)
    (written : (frame (.number n)).WrittenAs text.toList) :
    ∃ significand power, n.Keeps significand power ∧
      ((∃ payload, decode text = .ok payload) ↔ taken significand power < overflow) ∧
      (∀ y, IsFinite y → (Arrives text slot y ↔
        negative y = negative x ∧ Holds y (taken significand power))) ∧
      (power = 0 ∨ significand ≤ 2 ^ 53 ∧ power.natAbs ≤ 22 → Arrives text slot x) := by
  obtain ⟨payload, meaning⟩ := (wellFormed_iff _).mp shape
  obtain ⟨decoded, arrives⟩ := arrives_iff around meaning written
  obtain ⟨significand, power, keeps, ranged, read⟩ := printed.double?_eq_iff finite
  refine ⟨significand, power, keeps, decoded.trans ranged, fun y result => ?_, fun safe => ?_⟩
  · rw [arrives, read y result, printed.sign]
  · rw [arrives, read x finite]
    exact ⟨printed.sign.symm, printed.holds_taken finite keeps safe⟩

end Decoding

theorem prints_negative_tenth : Numeral.Prints ⟨true, ['0'], ['1'], none⟩ (-0.1) where
  digits := List.all_eq_true.mp rfl
  exponent := by decide
  sign := by decide +kernel
  shortest := by
    have fields : significand (-0.1) = 7205759403792794 ∧ Binary64.power (-0.1) = -56 := by
      decide +kernel
    refine ⟨1, -1, .of_digit (by rw [fields.1]; norm_num) (by norm_num) ?_, ?_⟩
    · rw [Holds, fields.1, fields.2]
      refine ⟨?_, ?_, fun _ => rfl⟩ <;> norm_num
    · have ones : Decimal.ofDigits ['0', '1'] = 1 := rfl
      simp [Numeral.size, Numeral.number, Numeral.power, Numeral.exponentValue, ones]

/-- A double with one digit behind the point, as the second of two eigenvalues. -/
theorem negative_tenth_arrives :
    let n : Numeral := ⟨true, ['0'], ['1'], none⟩
    let name : List Nat := [0x65, 0x69, 0x67, 0x65, 0x6E, 0x76, 0x61, 0x6C, 0x75, 0x65, 0x73]
    let frame (d : Document) : Document := .object ([] ++
      (name, .array ([.number ⟨false, ['1'], [], none⟩] ++ d :: [])) :: [])
    let text := "\x7b\"eigenvalues\":[1,-0.1]\x7d"
    Around (.eigenvalue 1) frame ∧ (frame (.number .zero)).WellFormed ∧ IsFinite (-0.1) ∧
      n.Prints (-0.1) ∧ (frame (.number n)).WrittenAs text.toList ∧
      Arrives text (.eigenvalue 1) (-0.1) := by
  intro n name frame text
  have around : Around (.eigenvalue 1) frame :=
    @Around.eigenvalue [] [] name [.number ⟨false, ['1'], [], none⟩] [] (by decide +kernel)
  have shape : (frame (.number .zero)).WellFormed :=
    (wellFormed_iff _).mpr ⟨⟨"", [1, 0], 0⟩, by decide +kernel⟩
  have finite : IsFinite (-0.1) := by decide +kernel
  have written : (frame (.number n)).WrittenAs text.toList := by
    have spelled : text.toList = ['\x7b', '"', 'e', 'i', 'g', 'e', 'n', 'v', 'a', 'l', 'u', 'e', 's',
        '"', ':', '[', '1', ',', '-', '0', '.', '1', ']', '\x7d'] := by decide +kernel
    rw [spelled]
    have quoted (rest : List Char) : Quoted name ('e' :: 'i' :: 'g' :: 'e' :: 'n' :: 'v' :: 'a' ::
        'l' :: 'u' :: 'e' :: 's' :: '"' :: rest) rest :=
      Quoted.plain (s := ['e', 'i', 'g', 'e', 'n', 'v', 'a', 'l', 'u', 'e', 's']) rfl rest
    exact ⟨_, [], .none _, .object (.members (.colon (.none _) (quoted _) (.none _)) (.none _)
      (.array (.elements (.none _) (.number (written_of_scanNumeral rfl)) (.nextElement (.none _)
        (.elements (.none _) (.number (written_of_scanNumeral rfl)) (.endElements (.none _))))))
      (.endMembers (.none _))), .none _⟩
  obtain ⟨significand, power, keeps, -, -, safe⟩ :=
    printed_double_arrives_iff around shape finite prints_negative_tenth written
  have ones : Decimal.ofDigits ['0', '1'] = 1 := rfl
  have kept : n.Keeps 1 (-1) := by
    refine ⟨?_, by norm_num, le_rfl, .inl rfl⟩
    simp [Numeral.size, Numeral.number, Numeral.power, Numeral.exponentValue, n, ones]
  obtain ⟨rfl, rfl⟩ := keeps.unique kept
  exact ⟨around, shape, finite, prints_negative_tenth, written,
    safe (.inr ⟨by norm_num, by norm_num⟩)⟩

theorem prints_small_score :
    Numeral.Prints ⟨false, ['1'], [], some (true, ['2', '3'])⟩ 1e-23 where
  digits := List.all_eq_true.mp rfl
  exponent := by decide
  sign := by decide +kernel
  shortest := by
    have fields : significand 1e-23 = 6805647338418769 ∧ Binary64.power 1e-23 = -129 := by
      decide +kernel
    refine ⟨1, -23, .of_digit (by rw [fields.1]; norm_num) (by norm_num) ?_, ?_⟩
    · rw [Holds, fields.1, fields.2]
      refine ⟨?_, ?_, ?_⟩ <;> norm_num
    · have digits : Decimal.ofDigits ['1'] = 1 ∧ Decimal.ofDigits ['2', '3'] = 23 := ⟨rfl, rfl⟩
      simp [Numeral.size, Numeral.number, Numeral.power, Numeral.exponentValue, digits]

/-- A double with a single digit arrives as one of its neighbours, since ten to the power of 23 is
rounded before it is divided by. -/
theorem small_score_misread :
    let n : Numeral := ⟨false, ['1'], [], some (true, ['2', '3'])⟩
    let name : List Nat := [0x73, 0x63, 0x6F, 0x72, 0x65]
    let frame (d : Document) : Document := .object ([] ++ (name, d) :: [])
    let text := "\x7b\"score\":1e-23\x7d"
    Around .score frame ∧ (frame (.number .zero)).WellFormed ∧ IsFinite 1e-23 ∧
      n.Prints 1e-23 ∧ (frame (.number n)).WrittenAs text.toList ∧
      (1 / 1e23 : Float) ≠ 1e-23 ∧ decode text = .ok ⟨"", [], 1 / 1e23⟩ ∧
      ¬Arrives text .score 1e-23 := by
  intro n name frame text
  have around : Around .score frame := @Around.score [] [] name (by decide +kernel)
  have meaning : (frame (.number n)).payload? = some ⟨"", [], 1 / 1e23⟩ := by decide +kernel
  have shape : (frame (.number .zero)).WellFormed :=
    (wellFormed_iff _).mpr ⟨⟨"", [], 0⟩, by decide +kernel⟩
  have written : (frame (.number n)).WrittenAs text.toList := by
    have spelled : text.toList = ['\x7b', '"', 's', 'c', 'o', 'r', 'e', '"', ':', '1', 'e', '-',
        '2', '3', '\x7d'] := by decide +kernel
    rw [spelled]
    have quoted (rest : List Char) : Quoted name ('s' :: 'c' :: 'o' :: 'r' :: 'e' :: '"' :: rest)
        rest := Quoted.plain (s := ['s', 'c', 'o', 'r', 'e']) rfl rest
    exact ⟨_, [], .none _, .object (.members (.colon (.none _) (quoted _) (.none _)) (.none _)
      (.number (written_of_scanNumeral rfl)) (.endMembers (.none _))), .none _⟩
  have decoded : decode text = .ok ⟨"", [], 1 / 1e23⟩ :=
    toOption_eq_some.mp ((decode_toOption written).trans meaning)
  have other : (1 / 1e23 : Float) ≠ 1e-23 := by decide +kernel
  refine ⟨around, shape, by decide +kernel, prints_small_score, written, other, decoded, ?_⟩
  rintro ⟨payload, found, same⟩
  rw [decoded] at found
  cases found
  exact other (Option.some_inj.mp same)

end Payload

end AggregateStage
