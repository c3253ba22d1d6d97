/-!
# Shared cells

A value that interrupt handlers and the main loop share. Every access runs alone and to its end,
so a cell is its value, and each access is one function of it.
-/

namespace SpeedController

/-- A value that is only reached through whole accesses. -/
structure Cell (α : Type) where
  value : α
  deriving DecidableEq, Repr

namespace Cell

variable {α β : Type}

/-- Look at the value. -/
def read (c : Cell α) (f : α → β) : β := f c.value

/-- Replace the value by what `f` makes of it, and hand out the answer of `f`. -/
def update (c : Cell α) (f : α → β × α) : β × Cell α :=
  let (answer, value) := f c.value
  (answer, ⟨value⟩)

/-- Put a new value in place and hand out the one that was there. -/
def exchange (c : Cell α) (value : α) : α × Cell α := c.update fun old => (old, value)

@[simp] theorem exchange_eq (c : Cell α) (value : α) : c.exchange value = (c.value, ⟨value⟩) := rfl

end Cell

end SpeedController
