import SpeedController.Power.Bridge

/-!
# Pulse width modulation

A timer counts periods of 256 ticks. At the start of a period both motors are released; at tick
`255 - duty` a motor is driven in the direction of its command, so that it is powered for `duty`
ticks. A motor with duty 0 has no event.

The latch keeps the commands and whether the outputs are enabled. What it does to the hardware in
answer to an order is given as a list of actions, in the order in which they happen.
-/

namespace SpeedController.Power

/-- The tick at which a motor is powered, if it is powered at all. -/
def compareFor (duty : UInt8) : Option UInt8 := if duty = 0 then none else some (255 - duty)

/-- A single thing done to the hardware: a write to a leg, or a setting of the event of a motor. -/
inductive Action where
  | leg (motor : Motor) (write : LegWrite)
  | compare (motor : Motor) (tick : Option UInt8)
  deriving DecidableEq, Repr

/-- What the control loop, the supervisor and the timer ask of the motor outputs. -/
inductive Order where
  | set (motor : Motor) (command : Command)
  | enable
  | disable
  | overflow
  | compare (motor : Motor)
  deriving DecidableEq, Repr

/-- The latched commands, and whether they may reach the motors. -/
structure Latch where
  commands : Sides Command
  enabled : Bool
  deriving DecidableEq, Repr

namespace Latch

/-- Brake commands, not enabled. -/
def idle : Latch := ⟨.both .brake, false⟩

/-- The latch after an order. Disabling forgets the commands. -/
def next (l : Latch) : Order → Latch
  | .set motor command => { l with commands := l.commands.set motor command }
  | .enable => { l with enabled := true }
  | .disable => idle
  | .overflow => l
  | .compare _ => l

/-- Release one motor. -/
def releaseActions (motor : Motor) : List Action := Bridge.releaseWrites.map (.leg motor)

/-- Release both motors. -/
def releaseBothActions : List Action := releaseActions .left ++ releaseActions .right

/-- What an order does to the hardware. -/
def actions (l : Latch) : Order → List Action
  | .set motor command =>
    .compare motor (compareFor command.duty) ::
      if command.duty = 0 then releaseActions motor else []
  | .enable => []
  | .disable => .compare .left none :: .compare .right none :: releaseBothActions
  | .overflow => releaseBothActions
  | .compare motor =>
    let command := l.commands.get motor
    if l.enabled ∧ command.duty ≠ 0 then
      (Bridge.driveWrites command.direction).map (.leg motor)
    else []

/-- What a sequence of orders does to the hardware. -/
def actionsOfAll (l : Latch) : List Order → List Action
  | [] => []
  | o :: os => l.actions o ++ (l.next o).actionsOfAll os

/-- What building the outputs does to the hardware: each bridge is released as it is wired, and then
everything is disabled. -/
def startActions : List Action := releaseBothActions ++ idle.actions .disable

end Latch

end SpeedController.Power
