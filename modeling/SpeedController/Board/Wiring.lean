import SpeedController.Board.EdgeTrigger
import SpeedController.Board.PinBank
import SpeedController.Power.Driver

/-!
# Wiring of the board

Bank A carries the receiver, the serial line and the two control pins of the bridge chip; the four
legs of the bridges are on bank D.
-/

namespace SpeedController.Board

open Power

/-- The pin of bank A that disables the bridge chip while it is high. -/
def disablePin : Nat := 3

/-- The pin of bank A that lets the bridge chip sleep while it is low. -/
def wakePin : Nat := 4

/-- The pins of bank A that send and receive on the serial line. -/
def serialPins : List Nat := [9, 10]

/-- The alternate function of the serial pins. -/
def serialFunction : Nat := 7

/-- The pin of bank D that is a leg of a bridge. -/
def legPin : Motor → Direction → Nat
  | .left, .forward => 12
  | .left, .backward => 13
  | .right, .forward => 14
  | .right, .backward => 15

/-- The registers of the two banks, the one that switches their clocks on, and the events of the
timer of the motors. -/
structure Wiring where
  bankA : PinBank
  bankD : PinBank
  bankClocks : Register
  compares : Sides (Option UInt8)
  deriving DecidableEq, Repr

namespace Wiring

/-- The registers at power-up: bank A has the debug pins set up. -/
def powerUp : Wiring where
  bankA := { PinBank.cleared with mode := 0xA8000000, speed := 0x0C000000, pull := 0x64000000 }
  bankD := .cleared
  bankClocks := 0
  compares := .both none

/-- Give every pin its role, and wake the bridge chip. -/
def start : Wiring :=
  let a := (powerUp.bankA.configure wakePin .pushPullOutput).configure disablePin .pushPullOutput
  let a := (a.write disablePin false).write wakePin true
  let a := (a.configure (channelPin .ch1) .floatingInput).configure (channelPin .ch2) .floatingInput
  let a := serialPins.foldl (fun a pin => a.configure pin (.alternate serialFunction)) a
  let legs := [legPin .left .forward, legPin .left .backward,
    legPin .right .forward, legPin .right .backward]
  { powerUp with
    bankA := a
    bankD := legs.foldl (fun d pin => d.configure pin .pushPullOutput) powerUp.bankD
    bankClocks := (Register.bit 0).setBits (.bit 3) }

/-- Carry out an action of the motor outputs. -/
def perform (w : Wiring) : Action → Wiring
  | .leg motor write => { w with bankD := w.bankD.write (legPin motor write.leg) write.high }
  | .compare motor tick => { w with compares := w.compares.set motor tick }

instance : PowerStage Wiring := ⟨perform, Wiring.compares⟩

/-- Disable the bridge chip and let it sleep. -/
def sleep (w : Wiring) : Wiring :=
  { w with bankA := (w.bankA.write disablePin true).write wakePin false }

end Wiring

end SpeedController.Board
