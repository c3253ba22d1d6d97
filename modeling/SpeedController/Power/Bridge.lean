import SpeedController.Power.Command

/-!
# Bridges

A motor hangs between two legs of a bridge, one per direction, and a leg that is high drives the
motor in its direction. Both legs high at once would short the supply, so driving lowers the
opposite leg before it raises its own. The writes of an operation are given as a list, in the order
in which they happen.
-/

namespace SpeedController.Power

/-- An output pin. Writing to a pin that is stuck fails and leaves its level alone. -/
structure Pin where
  high : Bool
  stuck : Bool
  deriving DecidableEq, Repr

/-- Try to bring a pin to a level. -/
def Pin.write (p : Pin) (high : Bool) : Pin := if p.stuck then p else { p with high }

/-- A write to one leg of a bridge. -/
structure LegWrite where
  leg : Direction
  high : Bool
  deriving DecidableEq, Repr

/-- The pins of the two legs of a bridge. -/
structure Bridge where
  forward : Pin
  backward : Pin
  deriving DecidableEq, Repr

namespace Bridge

/-- The pin of the leg that drives in a direction. -/
def leg (b : Bridge) : Direction → Pin
  | .forward => b.forward
  | .backward => b.backward

/-- Carry out one write. -/
def write (b : Bridge) (w : LegWrite) : Bridge :=
  match w.leg with
  | .forward => { b with forward := b.forward.write w.high }
  | .backward => { b with backward := b.backward.write w.high }

/-- Carry out writes in order. -/
def writeAll (b : Bridge) (ws : List LegWrite) : Bridge := ws.foldl write b

/-- The writes that drive the motor in a direction. -/
def driveWrites (d : Direction) : List LegWrite := [⟨d.opposite, false⟩, ⟨d, true⟩]

/-- The writes that take the power off the motor. -/
def releaseWrites : List LegWrite := [⟨.forward, false⟩, ⟨.backward, false⟩]

/-- Drive the motor in a direction. -/
def drive (b : Bridge) (d : Direction) : Bridge := b.writeAll (driveWrites d)

/-- Take the power off the motor. -/
def release (b : Bridge) : Bridge := b.writeAll releaseWrites

/-- Let the pin of a leg stick or come free; its level stays. -/
def setStuck (b : Bridge) (leg : Direction) (stuck : Bool) : Bridge :=
  match leg with
  | .forward => { b with forward := { b.forward with stuck } }
  | .backward => { b with backward := { b.backward with stuck } }

end Bridge

end SpeedController.Power
