/-! Values under names. -/
namespace AggregateStage.Named

/-- Sets a value in the place of the one it replaces, or at the end. -/
def put {α : Type} (entries : List (String × α)) (name : String) (value : α) :
    List (String × α) :=
  match entries with
  | [] => [(name, value)]
  | (key, old) :: rest =>
    if key = name then (name, value) :: rest else (key, old) :: put rest name value

end AggregateStage.Named
