/-!
# Stick channels

The receiver delivers two stick channels. A value for each of them is an `Axes`.
-/

namespace SpeedController.Receiver

/-- One of the two stick channels. -/
inductive Channel where
  | ch1
  | ch2
  deriving DecidableEq, Repr

/-- One value per stick channel. -/
structure Axes (α : Type) where
  ch1 : α
  ch2 : α
  deriving DecidableEq, Repr

namespace Axes

variable {α β : Type}

/-- The same value on both channels. -/
def both (a : α) : Axes α := ⟨a, a⟩

/-- The value of one channel. -/
def get (x : Axes α) : Channel → α
  | .ch1 => x.ch1
  | .ch2 => x.ch2

/-- Replace the value of one channel. -/
def set (x : Axes α) (c : Channel) (a : α) : Axes α :=
  match c with
  | .ch1 => { x with ch1 := a }
  | .ch2 => { x with ch2 := a }

/-- Apply a function on both channels. -/
def map (f : α → β) (x : Axes α) : Axes β := ⟨f x.ch1, f x.ch2⟩

@[simp] theorem get_both (a : α) (c : Channel) : (both a).get c = a := by cases c <;> rfl

@[simp] theorem get_set_self (x : Axes α) (c : Channel) (a : α) : (x.set c a).get c = a := by
  cases c <;> rfl

theorem get_set_of_ne (x : Axes α) {c c' : Channel} (a : α) (h : c' ≠ c) :
    (x.set c a).get c' = x.get c' := by
  cases c <;> cases c' <;> first | rfl | exact absurd rfl h

/-- Values that agree on each channel are the same. -/
theorem eq_of_get {x y : Axes α} (h : ∀ c, x.get c = y.get c) : x = y := by
  cases x
  cases y
  exact (mk.injEq ..).mpr ⟨h .ch1, h .ch2⟩

@[simp] theorem get_map (f : α → β) (x : Axes α) (c : Channel) : (x.map f).get c = f (x.get c) := by
  cases c <;> rfl

end Axes

end SpeedController.Receiver
