import AggregateStage.Proofs.Json.Skip

/-! How far a value goes. What comes behind it does not belong to it, and it ends at one
place only, so that nothing shorter or longer is written for it. -/
namespace AggregateStage.Json

variable {text first rest other more : List Char} {part : Part} {document another : Document}

theorem Quoted.append {units : List Nat} (quoted : Quoted units text rest) (more : List Char) :
    Quoted units (text ++ more) (rest ++ more) := by
  induction quoted with
  | close => exact .close _
  | literal printable notQuote notBackslash _ ih => exact .literal printable notQuote notBackslash ih
  | short member _ ih => exact .short member ih
  | unit first second third fourth _ ih => exact .unit first second third fourth ih

theorem Numeral.Written.append {n : Numeral} (written : n.Written text rest) (more : List Char) :
    n.Written (text ++ more) (rest ++ more) := by
  obtain ⟨whole, fraction, exponent⟩ := written
  simpa only [List.append_assoc] using Numeral.Written.parts whole fraction exponent

theorem Name.append {units : List Nat} (name : Name units text rest) (more : List Char) :
    Name units (text ++ more) (rest ++ more) := by
  obtain ⟨before, quoted, behind⟩ := name
  exact .colon (before.append more) (quoted.append more) (behind.append more)

theorem Writes.append (written : Writes part text rest) (more : List Char) :
    Writes part (text ++ more) (rest ++ more) := by
  induction written with
  | null => exact .null _
  | yes => exact .yes _
  | no => exact .no _
  | number numeral => exact .number (numeral.append more)
  | string quoted => exact .string (quoted.append more)
  | array _ ih => exact .array ih
  | object _ ih => exact .object ih
  | noElements closing => exact .noElements (closing.append more)
  | elements blanks _ _ value later => exact .elements (blanks.append more) value later
  | endElements closing => exact .endElements (closing.append more)
  | nextElement comma _ ih => exact .nextElement (comma.append more) ih
  | noMembers closing => exact .noMembers (closing.append more)
  | members name blanks _ _ value later =>
    exact .members (name.append more) (blanks.append more) value later
  | endMembers closing => exact .endMembers (closing.append more)
  | nextMember comma _ ih => exact .nextMember (comma.append more) ih

/-- Only a number can end at more than one place. -/
theorem Writes.rest_unique (written : Writes (.value document) text rest)
    (again : Writes (.value another) text other) (closed : ∀ n, document ≠ .number n)
    (alsoClosed : ∀ n, another ≠ .number n) : rest = other := by
  have passed : skipValue text = .ok rest :=
    skip_of_writes written (.none text) (fun n equal => by cases equal; exact (closed n rfl).elim)
      (Nat.le_refl _)
  have passedAgain : skipValue text = .ok other :=
    skip_of_writes again (.none text) (fun n equal => by cases equal; exact (alsoClosed n rfl).elim)
      (Nat.le_refl _)
  rw [passed] at passedAgain
  exact Except.ok.inj passedAgain

/-- A value keeps its end when more text follows. -/
theorem Writes.rest_append {start behind : List Char} (blanks : Blanks text first)
    (written : Writes (.value document) first rest) (before : Blanks (text ++ more) start)
    (again : Writes (.value another) start behind) (closed : ∀ n, document ≠ .number n)
    (alsoClosed : ∀ n, another ≠ .number n) : behind = rest ++ more := by
  have longer := written.append more
  have same : start = first ++ more := by
    rw [← again.reach before, longer.reach (blanks.append more)]
  subst same
  exact again.rest_unique longer alsoClosed closed

end AggregateStage.Json
