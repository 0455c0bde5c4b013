import AggregateStage.Binary64

/-! Work items as their sender describes them, and the score of one. The order of the
operations is part of the result, since later stages compare scores bit for bit. -/
namespace AggregateStage

structure Payload where
  id : String
  eigenvalues : List Float
  score : Float
  deriving DecidableEq, Repr

/-- The payload that leaves everything out. -/
def Payload.zero : Payload := ⟨"", [], 0⟩

/-- The operations that a score is made of, so that it can be taken in doubles or exactly. -/
structure Arithmetic (α : Type) where
  zero : α
  add : α → α → α
  mul : α → α → α
  abs : α → α
  ofNat : Nat → α
  /-- The weight of a round. -/
  roundWeight : α
  /-- The weight of a pair of neighbouring eigenvalues. -/
  pairWeight : α

def Arithmetic.double : Arithmetic Float where
  zero := 0
  add := (· + ·)
  mul := (· * ·)
  abs := Float.abs
  ofNat := fun n => (UInt64.ofNat n).toFloat
  roundWeight := 0.001
  pairWeight := 0.1

namespace Score

/-- Every work item takes the same number of rounds. -/
def rounds : Nat := 50

variable {α : Type} (a : Arithmetic α)

def total (eigenvalues : List α) : α := eigenvalues.foldl a.add a.zero

/-- What a round adds; rounds weigh linearly more, the first one counting once. -/
def ofRound (level : α) (round : Nat) : α :=
  a.mul (a.mul level (a.ofNat (round + 1))) a.roundWeight

/-- What a pair of neighbours adds. -/
def ofPair (pair : α × α) : α := a.mul (a.abs (a.mul pair.1 pair.2)) a.pairWeight

def neighbours (eigenvalues : List α) : List (α × α) := eigenvalues.zip eigenvalues.tail

/-- The rounds on the item's own score and its eigenvalues together, then the pairs. -/
def compute (score : α) (eigenvalues : List α) : α :=
  let level := a.add score (total a eigenvalues)
  let base := ((List.range rounds).map (ofRound a level)).foldl a.add a.zero
  ((neighbours eigenvalues).map (ofPair a)).foldl a.add base

end Score

def Payload.finalScore (payload : Payload) : Float :=
  Score.compute .double payload.score payload.eigenvalues

end AggregateStage
