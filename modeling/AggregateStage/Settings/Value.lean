import AggregateStage.Named

/-! Values that settings are given in before their types are checked. -/
namespace AggregateStage

namespace Settings

inductive Value where
  | boolean (value : Bool)
  | unsigned (value : Nat)
  | signed (value : Int)
  | real (value : Float)
  | text (value : String)
  | list (items : List Value)
  | table (entries : List (String × Value))
  deriving Repr, BEq

/-- Values by name, each name once. -/
abbrev Table := List (String × Value)

def Table.find? (t : Table) (name : String) : Option Value := t.lookup name

/-- A table of one value under names nested in one another. -/
def Value.nested (value : Value) : List String → Value
  | [] => value
  | name :: path => .table [(name, value.nested path)]

mutual

/-- Lays a value over another: tables are joined name by name, anything else is replaced. -/
def Value.over (upper : Value) (lower : Value) : Value :=
  match upper, lower with
  | .table entries, .table under => .table (overTable entries under)
  | upper, _ => upper

/-- Lays entries over a table, one after the other. -/
def overTable (upper : List (String × Value)) (lower : Table) : Table :=
  match upper with
  | [] => lower
  | (name, value) :: rest =>
    overTable rest (Named.put lower name (match lower.find? name with
      | some under => value.over under
      | none => value))

end

end Settings

end AggregateStage
