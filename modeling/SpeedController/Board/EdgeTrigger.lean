import SpeedController.Board.Register
import SpeedController.Receiver.Edge

/-!
# Edge interrupts

The lines of the receiver are pins 0 and 1 of bank A. Both raise an interrupt at either kind of
edge; which kind it was is read off the level of the pin afterwards.
-/

namespace SpeedController.Board

open Receiver

/-- The pin of a channel. -/
def channelPin : Channel → Nat
  | .ch1 => 0
  | .ch2 => 1

/-- The registers of the interrupt controller, one bit per pin and in `banks` four, and the levels of
the pins of bank A. -/
structure EdgeTrigger where
  enabled : Register
  rising : Register
  falling : Register
  pending : Register
  banks : Register
  busClocks : Register
  levels : Register
  deriving DecidableEq, Repr

namespace EdgeTrigger

/-- The registers at power-up. -/
def powerUp : EdgeTrigger := ⟨0, 0, 0, 0, 0, 0, 0⟩

/-- Let the pin of a channel raise interrupts. -/
def wire (t : EdgeTrigger) (channel : Channel) : EdgeTrigger :=
  let pin := channelPin channel
  { t with
    enabled := t.enabled.setBits (.bit pin)
    rising := t.rising.setBits (.bit pin)
    falling := t.falling.setBits (.bit pin)
    banks := t.banks.withField 4 pin 0
    busClocks := t.busClocks.setBits (.bit 14) }

/-- Let the pins of both channels raise interrupts. -/
def start (t : EdgeTrigger) : EdgeTrigger := (t.wire .ch1).wire .ch2

/-- Answer the interrupt of a channel, and tell which kind of edge it was. -/
def service (t : EdgeTrigger) (channel : Channel) : Edge × EdgeTrigger :=
  let pin := channelPin channel
  (if t.levels.hasBit pin then .rising else .falling,
    { t with pending := t.pending.clearBits (.bit pin) })

end EdgeTrigger

end SpeedController.Board
