/-! How many bytes characters take. -/
namespace AggregateStage.Text

def byteCount : List Char → Nat
  | [] => 0
  | c :: rest => c.utf8Size + byteCount rest

end AggregateStage.Text
