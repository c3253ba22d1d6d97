/-!
# Motor commands

The vehicle has a motor on each side. A command names a direction and a duty, the number of ticks
out of 255 for which the motor is powered in every period.
-/

namespace SpeedController.Power

/-- One of the two motors. -/
inductive Motor where
  | left
  | right
  deriving DecidableEq, Repr

/-- One value per motor. -/
structure Sides (α : Type) where
  left : α
  right : α
  deriving DecidableEq, Repr

namespace Sides

variable {α β : Type}

/-- The same value on both sides. -/
def both (a : α) : Sides α := ⟨a, a⟩

/-- The value of one side. -/
def get (x : Sides α) : Motor → α
  | .left => x.left
  | .right => x.right

/-- Replace the value of one side. -/
def set (x : Sides α) (m : Motor) (a : α) : Sides α :=
  match m with
  | .left => { x with left := a }
  | .right => { x with right := a }

/-- Apply a function on both sides. -/
def map (f : α → β) (x : Sides α) : Sides β := ⟨f x.left, f x.right⟩

@[simp] theorem get_both (a : α) (m : Motor) : (both a).get m = a := by cases m <;> rfl

@[simp] theorem get_set_self (x : Sides α) (m : Motor) (a : α) : (x.set m a).get m = a := by
  cases m <;> rfl

theorem get_set_of_ne (x : Sides α) {m m' : Motor} (a : α) (h : m' ≠ m) :
    (x.set m a).get m' = x.get m' := by
  cases m <;> cases m' <;> first | rfl | exact absurd rfl h

@[simp] theorem get_map (f : α → β) (x : Sides α) (m : Motor) : (x.map f).get m = f (x.get m) := by
  cases m <;> rfl

end Sides

/-- The two ways in which a motor turns. -/
inductive Direction where
  | forward
  | backward
  deriving DecidableEq, Repr

/-- The other way. -/
def Direction.opposite : Direction → Direction
  | .forward => .backward
  | .backward => .forward

/-- What a motor is told to do. -/
structure Command where
  direction : Direction
  duty : UInt8
  deriving DecidableEq, Repr

namespace Command

/-- No power. -/
def brake : Command := ⟨.forward, 0⟩

/-- The duty as a number that is negative when the motor turns backward. -/
def signed (c : Command) : Int :=
  match c.direction with
  | .forward => c.duty.toNat
  | .backward => -c.duty.toNat

end Command

end SpeedController.Power
