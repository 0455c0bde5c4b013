/-! The variables of a process, as the system lists them. -/
namespace AggregateStage.Environment

/-- A variable's name and its value, with an equals sign between them. -/
def entry? (cs : List Char) : Option (String × String) :=
  let (name, value) := cs.span (· != '=')
  if name.isEmpty then none else some (String.ofList name, String.ofList (value.drop 1))

/-- Reads variables that each end with a zero character; they are given in the order of
their names. -/
def parse (text : String) : List (String × String) :=
  ((text.toList.splitOn '\x00').filterMap entry?).mergeSort fun a b => decide (a.1 ≤ b.1)

end AggregateStage.Environment
