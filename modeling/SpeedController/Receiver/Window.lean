/-!
# Moving average

A ring of the last `n` values and their integer mean. `Window.entries` lists what the ring holds from
the oldest to the newest value, which is all that the mean depends on.
-/

namespace SpeedController.Receiver

/-- The number of samples that the stick filters average. -/
def filterLength : Nat := 4

/-- The last `n` values in a ring; `cursor` is the slot of the oldest one. -/
structure Window (n : Nat) where
  slots : Vector UInt16 n
  cursor : Fin n
  deriving DecidableEq

namespace Window

variable {n : Nat}

/-- A window that holds `n` times the same value. -/
def filled
    -- the zero is named because a larger library brings a second one
    [@NeZero Nat .ofOfNat0 n] (value : UInt16) : Window n :=
  ⟨Vector.replicate n value, ⟨0, Nat.pos_of_neZero n⟩⟩

/-- Overwrite the oldest value. -/
def push (w : Window n) (value : UInt16) : Window n :=
  ⟨w.slots.set w.cursor value, ⟨(w.cursor + 1) % n, Nat.mod_lt _ w.cursor.pos⟩⟩

/-- The sum of the window in a 32-bit word. -/
def sum (w : Window n) : UInt32 := w.slots.foldl (fun total v => total + v.toUInt32) 0

/-- The integer mean of the window. -/
def mean (w : Window n) : UInt16 := (w.sum / .ofNat n).toUInt16

/-- The values in the window, from the oldest to the newest. -/
def entries (w : Window n) : List UInt16 := w.slots.toList.rotateLeft w.cursor

end Window

end SpeedController.Receiver
