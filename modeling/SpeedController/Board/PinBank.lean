import SpeedController.Board.Register

/-!
# Pin banks

A bank has sixteen pins. Most of its registers have a field per pin: two bits for the mode, the
speed and the pull resistor, one for levels and the output type, and four, spread over two
registers, for the alternate function.
-/

namespace SpeedController.Board

/-- The registers of a bank. -/
structure PinBank where
  mode : Register
  outputType : Register
  speed : Register
  pull : Register
  input : Register
  output : Register
  alternateLow : Register
  alternateHigh : Register
  deriving DecidableEq, Repr

/-- What a pin is used for. -/
inductive PinRole where
  | floatingInput
  | pushPullOutput
  | alternate (function : Nat)
  deriving DecidableEq, Repr

/-- The mode field of a role. -/
def PinRole.mode : PinRole → Nat
  | floatingInput => 0
  | pushPullOutput => 1
  | alternate _ => 2

namespace PinBank

/-- All registers of a bank cleared. -/
def cleared : PinBank := ⟨0, 0, 0, 0, 0, 0, 0, 0⟩

/-- Give a pin its role. The pull resistor goes, and an output drives both ways. -/
def configure (p : PinBank) (pin : Nat) (role : PinRole) : PinBank :=
  let p := { p with
    mode := p.mode.withField 2 pin role.mode
    pull := p.pull.withField 2 pin 0
    outputType := p.outputType.withField 1 pin 0 }
  match role with
  | .alternate function =>
    if pin < 8 then { p with alternateLow := p.alternateLow.withField 4 pin function }
    else { p with alternateHigh := p.alternateHigh.withField 4 (pin - 8) function }
  | _ => p

/-- Bring an output pin to a level. -/
def write (p : PinBank) (pin : Nat) (high : Bool) : PinBank :=
  { p with output := p.output.withField 1 pin high.toNat }

end PinBank

end SpeedController.Board
