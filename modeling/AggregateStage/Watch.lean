/-! A value that one side replaces and others watch. Each replacement makes a version of its
own, and a receiver remembers the version that it saw last. -/
namespace AggregateStage

structure Watch (α : Type) where
  value : α
  /-- How often the value was replaced. -/
  version : Nat
  /-- How many receivers there are. -/
  receivers : Nat
  deriving DecidableEq, Repr

namespace Watch

/-- One who watches, with the version seen last. A copy remembers the same version. -/
structure Receiver where
  seen : Nat
  deriving DecidableEq, Repr

variable {α : Type} {w after : Watch α} {value : α}

/-- A value with its first receiver, which has seen it. -/
def channel (value : α) : Watch α × Receiver := (⟨value, 0, 1⟩, ⟨0⟩)

/-- Replaces the value, if there is anybody to see it. -/
def send? (w : Watch α) (value : α) : Option (Watch α) :=
  if w.receivers = 0 then none
  else some { value := value, version := w.version + 1, receivers := w.receivers }

/-- The value with one receiver more. -/
def attach (w : Watch α) : Watch α := { w with receivers := w.receivers + 1 }

/-- The value with one receiver less. -/
def detach (w : Watch α) : Watch α := { w with receivers := w.receivers - 1 }

/-- Whether the value was replaced since the receiver last saw it. -/
def hasNews (w : Watch α) (receiver : Receiver) : Bool := receiver.seen != w.version

@[simp] theorem version_attach : w.attach.version = w.version := rfl

@[simp] theorem version_detach : w.detach.version = w.version := rfl

@[simp] theorem receivers_attach : w.attach.receivers = w.receivers + 1 := rfl

@[simp] theorem receivers_detach : w.detach.receivers = w.receivers - 1 := rfl

theorem send?_isSome (w : Watch α) (value : α) : (w.send? value).isSome ↔ 0 < w.receivers := by
  unfold send?
  split <;> simp <;> omega

/-- What is sent is a new version for the same receivers. -/
theorem send?_eq_some (sent : w.send? value = some after) :
    after = ⟨value, w.version + 1, w.receivers⟩ := by
  unfold send? at sent
  split at sent
  · contradiction
  · exact (Option.some.inj sent).symm

end Watch

end AggregateStage
