import Mathlib.Data.List.TakeDrop
import AggregateStage.Json.Number
import AggregateStage.Proofs.Json.Lexeme

/-! Numerals against the grammar. Their reader takes as many characters as it can, so it
takes what is written if nothing follows that would go on with the numeral. -/
namespace AggregateStage.Json

variable {text rest digits : List Char} {n : Numeral} {exponent : Option (Bool × List Char)}

/-- What follows goes on with no numeral. -/
def Stops (rest : List Char) : Prop :=
  ∀ c ∈ rest.head?, Decimal.isDigit c = false ∧ c ≠ '.' ∧ c ≠ 'e' ∧ c ≠ 'E'

theorem scanDigits_append (some : AllDigits digits)
    (stops : ∀ c ∈ rest.head?, Decimal.isDigit c = false) :
    scanDigits (digits ++ rest) = .ok (digits, rest) := by
  have whole : (digits ++ rest).span Decimal.isDigit = (digits, rest) := by
    rw [List.span_eq_takeWhile_dropWhile, List.takeWhile_append_of_pos some.2,
      List.dropWhile_append_of_pos some.2]
    cases rest with
    | nil => simp
    | cons c rest => simp [stops c rfl]
  obtain ⟨first, more, rfl⟩ := List.exists_cons_of_ne_nil some.1
  rw [scanDigits, whole]

theorem allDigits_of_scanDigits (scan : scanDigits text = .ok (digits, rest)) :
    AllDigits digits ∧ text = digits ++ rest := by
  rw [scanDigits, List.span_eq_takeWhile_dropWhile] at scan
  split at scan
  · cases scan
  · next found absent =>
    cases scan
    refine ⟨⟨?_, fun digit => List.mem_takeWhile_imp⟩, List.takeWhile_append_dropWhile.symm⟩
    intro none
    exact absent _ (by rw [none])

theorem WholePart.allDigits (whole : WholePart digits) : AllDigits digits := by
  cases whole with
  | zero => exact ⟨by simp, by simp; decide⟩
  | digits _ all => exact all

theorem scanWhole_append (whole : WholePart digits)
    (stops : ∀ c ∈ rest.head?, Decimal.isDigit c = false) :
    scanWhole (digits ++ rest) = .ok (digits, rest) := by
  rw [scanWhole, scanDigits_append whole.allDigits stops]
  cases whole with
  | zero => rfl
  | @digits digit more apart _ =>
    simp only [bind, Except.bind]
    split
    · next found => simp_all
    · rfl

theorem wholePart_of_scanWhole (scan : scanWhole text = .ok (digits, rest)) :
    WholePart digits ∧ text = digits ++ rest := by
  obtain ⟨⟨found, behind⟩, first, checked⟩ := bind_eq_ok.mp scan
  obtain ⟨all, split⟩ := allDigits_of_scanDigits first
  split at checked
  · cases checked
  · next absent =>
    cases checked
    refine ⟨?_, split⟩
    match digits, all with
    | [digit], all =>
      by_cases zero : digit = '0'
      · exact zero ▸ .zero
      · exact .digits zero all
    | digit :: second :: more, all =>
      refine .digits ?_ all
      rintro rfl
      exact absent second more rest rfl

theorem scanFraction_append {fraction : List Char} (part : FractionPart digits fraction)
    (stops : ∀ c ∈ rest.head?, Decimal.isDigit c = false ∧ c ≠ '.') :
    scanFraction (fraction ++ rest) = .ok (digits, rest) := by
  cases part with
  | absent =>
    cases rest with
    | nil => rfl
    | cons c rest => simp [scanFraction, (stops c rfl).2]
  | digits some => exact scanDigits_append some fun c head => (stops c head).1

theorem fractionPart_of_scanFraction (scan : scanFraction text = .ok (digits, rest)) :
    ∃ fraction, FractionPart digits fraction ∧ text = fraction ++ rest := by
  unfold scanFraction at scan
  split at scan
  · obtain ⟨all, split⟩ := allDigits_of_scanDigits scan
    exact ⟨_, .digits all, by rw [split, List.cons_append]⟩
  · cases scan
    exact ⟨_, .absent, rfl⟩

theorem AllDigits.head_ne {digit : Char} (all : AllDigits (digit :: text)) {c : Char}
    (other : Decimal.isDigit c = false) : digit ≠ c := by
  rintro rfl
  simp [all.2 digit (by simp)] at other

theorem scanExponent_append {written : List Char} (part : ExponentPart exponent written)
    (stops : Stops rest) : scanExponent (written ++ rest) = .ok (exponent, rest) := by
  have digitsEnd : ∀ c ∈ rest.head?, Decimal.isDigit c = false := fun c head => (stops c head).1
  cases part with
  | absent =>
    cases rest with
    | nil => rfl
    | cons c rest => simp [scanExponent, (stops c rfl).2]
  | @unsigned mark digits marked some =>
    obtain ⟨first, more, rfl⟩ := List.exists_cons_of_ne_nil some.1
    have scan := scanDigits_append some digitsEnd
    rw [List.cons_append] at scan
    simp [scanExponent, marked, some.head_ne (show Decimal.isDigit '+' = false from rfl),
      some.head_ne (show Decimal.isDigit '-' = false from rfl), scan, Except.map]
  | plus marked some => simp [scanExponent, marked, scanDigits_append some digitsEnd, Except.map]
  | minus marked some => simp [scanExponent, marked, scanDigits_append some digitsEnd, Except.map]

theorem exponentPart_of_scanExponent (scan : scanExponent text = .ok (exponent, rest)) :
    ∃ written, ExponentPart exponent written ∧ text = written ++ rest := by
  unfold scanExponent at scan
  split at scan
  · split at scan
    · next marked =>
      split at scan
      all_goals
        obtain ⟨⟨digits, behind⟩, found, equal⟩ := map_eq_ok.mp scan
        cases equal
        obtain ⟨all, split⟩ := allDigits_of_scanDigits found
      · exact ⟨_, .plus marked all, by simp [split]⟩
      · exact ⟨_, .minus marked all, by simp [split]⟩
      · exact ⟨_, .unsigned marked all, by simp [split]⟩
    · cases scan
      exact ⟨_, .absent, rfl⟩
  · cases scan
    exact ⟨_, .absent, rfl⟩

theorem ExponentPart.stops {written : List Char} (part : ExponentPart exponent written)
    (stops : Stops rest) :
    ∀ c ∈ (written ++ rest).head?, Decimal.isDigit c = false ∧ c ≠ '.' := by
  cases part with
  | absent => exact fun c head => ⟨(stops c head).1, (stops c head).2.1⟩
  | unsigned marked | plus marked | minus marked =>
    rcases marked with rfl | rfl <;> (intro c head; cases head; decide)

theorem FractionPart.stops {fraction : List Char} (part : FractionPart digits fraction)
    (stops : ∀ c ∈ rest.head?, Decimal.isDigit c = false ∧ c ≠ '.') :
    ∀ c ∈ (fraction ++ rest).head?, Decimal.isDigit c = false := by
  cases part with
  | absent => exact fun c head => (stops c head).1
  | digits => rintro c ⟨⟩; rfl

/-- What comes behind the sign of a numeral. -/
def scanUnsigned (negative : Bool) (text : List Char) :
    Except (List Char) (Numeral × List Char) := do
  let (whole, text) ← scanWhole text
  let (fraction, text) ← scanFraction text
  let (exponent, text) ← scanExponent text
  return (⟨negative, whole, fraction, exponent⟩, text)

theorem scanNumeral_positive {c : Char} (apart : c ≠ '-') :
    scanNumeral (c :: text) = scanUnsigned false (c :: text) := by
  simp [scanNumeral, scanUnsigned, apart]

theorem scanUnsigned_append {fraction written : List Char} (whole : WholePart n.whole)
    (second : FractionPart n.fraction fraction) (third : ExponentPart n.exponent written)
    (stops : Stops rest) :
    scanUnsigned n.negative (n.whole ++ (fraction ++ (written ++ rest))) = .ok (n, rest) := by
  have behind := third.stops stops
  rw [scanUnsigned, scanWhole_append whole (second.stops behind)]
  simp only [bind, Except.bind]
  rw [scanFraction_append second behind]
  simp only [scanExponent_append third stops]
  rfl

theorem scanNumeral_of_written (written : n.Written text rest) (stops : Stops rest) :
    scanNumeral text = .ok (n, rest) := by
  obtain ⟨whole, fraction, exponent⟩ := written
  rw [← scanUnsigned_append whole fraction exponent stops]
  cases sign : n.negative with
  | true => rfl
  | false =>
    -- The first digit is no sign.
    have all := whole.allDigits
    obtain ⟨digit, more, spelled⟩ := List.exists_cons_of_ne_nil all.1
    rw [spelled] at all ⊢
    exact scanNumeral_positive (all.head_ne rfl)

theorem written_of_scanUnsigned {negative : Bool}
    (scan : scanUnsigned negative text = .ok (n, rest)) :
    n.Written ((if negative then ['-'] else []) ++ text) rest := by
  obtain ⟨⟨whole, behind⟩, first, scan⟩ := bind_eq_ok.mp scan
  obtain ⟨⟨fraction, after⟩, second, scan⟩ := bind_eq_ok.mp scan
  obtain ⟨⟨exponent, final⟩, third, scan⟩ := bind_eq_ok.mp scan
  cases scan
  obtain ⟨wholePart, rfl⟩ := wholePart_of_scanWhole first
  obtain ⟨_, fractionPart, rfl⟩ := fractionPart_of_scanFraction second
  obtain ⟨_, exponentPart, rfl⟩ := exponentPart_of_scanExponent third
  exact .parts wholePart fractionPart exponentPart

theorem written_of_scanNumeral (scan : scanNumeral text = .ok (n, rest)) : n.Written text rest := by
  match text with
  | [] => cases scan
  | c :: text =>
    by_cases sign : c = '-'
    · subst sign
      exact written_of_scanUnsigned scan
    · rw [scanNumeral_positive sign] at scan
      exact written_of_scanUnsigned scan

/-- The double that the reader of numbers takes a numeral for; none is out of range. -/
def Numeral.double? (n : Numeral) : Option Float := (n.value []).toOption.map Number.toFloat

/-- A number with digits put behind it. -/
def appendDigits (value : Nat) (digits : List Char) : Nat :=
  digits.foldl (fun value c => 10 * value + Decimal.digitValue c) value

theorem ofDigits_append (first second : List Char) :
    Decimal.ofDigits (first ++ second) = appendDigits (Decimal.ofDigits first) second := by
  rw [Decimal.ofDigits, List.foldl_append]
  rfl

theorem le_appendDigits (value : Nat) (digits : List Char) : value ≤ appendDigits value digits := by
  induction digits generalizing value with
  | nil => exact Nat.le_refl _
  | cons digit digits ih =>
    have next := ih (10 * value + Decimal.digitValue digit)
    have step : appendDigits value (digit :: digits) =
      appendDigits (10 * value + Decimal.digitValue digit) digits := rfl
    omega

/-- Digits are gathered to their decimal value if it fits, and so is an exponent. -/
theorem gather_of_fits (value : Nat) (fits : appendDigits value digits < Nat.pow 2 64) :
    gather value digits = (appendDigits value digits, []) := by
  induction digits generalizing value with
  | nil => rfl
  | cons digit digits ih =>
    have first := Nat.lt_of_le_of_lt (le_appendDigits _ digits) fits
    rw [gather, if_pos first, ih _ fits]
    rfl

theorem gatherExponent_of_fits (value : Nat) (fits : appendDigits value digits < Nat.pow 2 31) :
    gatherExponent value digits = .ok (appendDigits value digits) := by
  induction digits generalizing value with
  | nil => rfl
  | cons digit digits ih =>
    have first := Nat.lt_of_le_of_lt (le_appendDigits _ digits) fits
    rw [gatherExponent, if_pos first, ih _ fits]
    rfl

theorem wholeNumber_toFloat (negative : Bool) (significand : Nat) :
    (wholeNumber negative significand).toFloat =
      signed negative (UInt64.ofNat significand).toFloat := by
  cases negative with
  | false =>
    have positive : ¬ (significand : Int) < 0 := by omega
    simp [wholeNumber, Number.toFloat, signed, positive]
  | true =>
    by_cases real : significand = 0 ∨ Nat.pow 2 63 < significand
    · simp only [wholeNumber, real, if_true, Number.toFloat, signed]
    · have below : -(significand : Int) < 0 := by omega
      simp only [wholeNumber, real, if_true, if_false, Number.toFloat, signed, below,
        Int.natAbs_neg, Int.natAbs_natCast]

/-- What follows a numeral matters only to where a fault is reported. -/
theorem Numeral.value_toOption (n : Numeral) (rest : List Char) :
    (n.value rest).toOption = (n.value []).toOption := by
  simp only [value]
  cases n.exponent with
  | none =>
    dsimp only
    split
    · rfl
    · generalize scaled _ _ = found
      cases found <;> rfl
  | some exponent =>
    dsimp only
    split
    · generalize scaled _ _ = found
      cases found <;> rfl
    · split <;> rfl

theorem readNumeral_of_written (written : n.Written text rest) (stops : Stops rest) :
    ((readNumeral text).map fun (x, rest) => (x.toFloat, rest)).toOption =
      n.double?.map (·, rest) := by
  rw [readNumeral, scanNumeral_of_written written stops]
  simp [Numeral.double?, n.value_toOption rest, Function.comp_def]

end AggregateStage.Json
