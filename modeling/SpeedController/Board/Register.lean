/-!
# Registers

The registers of the board are 32-bit words that are used bit by bit, or in fields of equal width.
-/

namespace SpeedController.Board

/-- A register of a peripheral. -/
abbrev Register := UInt32

namespace Register

/-- The register in which only bit `n` is set. -/
def bit (n : Nat) : Register := .ofNat (1 <<< n)

/-- Set the bits of a mask. -/
def setBits (r mask : Register) : Register := r ||| mask

/-- Clear the bits of a mask. -/
def clearBits (r mask : Register) : Register := r &&& ~~~mask

/-- Whether bit `n` is set. -/
def hasBit (r : Register) (n : Nat) : Bool := r &&& bit n ≠ 0

/-- Put a value into field `index`, when all fields have the given width. -/
def withField (r : Register) (width index value : Nat) : Register :=
  (clearBits r (.ofNat ((1 <<< width - 1) <<< (width * index)))).setBits
    (.ofNat (value <<< (width * index)))

end Register

end SpeedController.Board
