import SpeedController.Board.Register
import SpeedController.Receiver.Pulse

/-!
# Tick counter

A 32-bit timer counts the ticks of 4 µs that stamp the edges of the receiver. It wraps after 16
bits, and every wrap closes a watchdog window.
-/

namespace SpeedController.Board

open Receiver

/-- The frequency of the internal oscillator in MHz. -/
def oscillator : Nat := 16

/-- The frequency in MHz of the phase-locked loop with the factors it has at power-up: half the
oscillator, times 50, halved again. -/
def initialLoop : Nat := oscillator / 2 * 50 / 2

/-- The frequency in MHz that the loop is switched on with, if a system clock is asked for. It stays
off when the oscillator alone will do, and it is not switched on either when its factors need no
change. -/
def loopFor? (sysclk : Option Nat) : Option Nat :=
  sysclk.filter fun f => f ≠ oscillator ∧ f ≠ initialLoop

/-- The system clock in MHz that results: that of the loop, or of the oscillator while the loop is
off. -/
def systemClock (sysclk : Option Nat) : Nat := (loopFor? sysclk).getD oscillator

/-- The fastest clock in MHz that the bus of the timer takes. A system clock above 180 MHz needs the
over-drive mode, in which the bus takes more. -/
def busLimit (clock : Nat) : Nat := if clock ≤ 180 then 45 else 54

/-- How many times the system clock is faster than the bus of the timer: the least power of two with
which the bus can take it, and at most 16. -/
def busDivider (clock : Nat) : Nat :=
  ([1, 2, 4, 8].find? fun divider => clock ≤ divider * busLimit clock).getD 16

/-- How many cycles of the timer make a tick, for a system clock in MHz. The timer runs at the pace of
its bus, and twice as fast where the bus is slower than the system clock. -/
def cyclesPerTick (clock : Nat) : Nat :=
  let divider := busDivider clock
  if divider = 1 then clock * tickMicros else 2 * clock * tickMicros / divider

/-- The registers of the timer, and the one that switches the clocks of its bus on. -/
structure TickCounter where
  control : Register
  interrupts : Register
  flags : Register
  count : Register
  divider : Register
  limit : Register
  busClocks : Register
  deriving DecidableEq, Repr

namespace TickCounter

/-- The registers at power-up. -/
def powerUp : TickCounter := ⟨0, 0, 0, 0, 0, 0xFFFFFFFF, 0⟩

/-- Let the timer count ticks from 0, with an interrupt at every wrap. Bits that have other uses stay
as they are. The loop, if it is on, has the power interface switched on as well. -/
def start (t : TickCounter) (sysclk : Option Nat) : TickCounter where
  control := t.control.setBits (.bit 0)
  interrupts := t.interrupts.setBits (.bit 0)
  flags := 0
  count := 0
  divider := .ofNat (cyclesPerTick (systemClock sysclk) - 1)
  limit := 0xFFFF
  busClocks :=
    (t.busClocks.setBits (.bit 0)).setBits (if (loopFor? sysclk).isSome then .bit 28 else 0)

/-- The present tick. -/
def now (t : TickCounter) : UInt16 := t.count.toUInt16

/-- Whether the counter has wrapped since it was last asked. -/
def takeOverflow (t : TickCounter) : Bool × TickCounter :=
  if t.flags.hasBit 0 then (true, { t with flags := t.flags.clearBits (.bit 0) }) else (false, t)

end TickCounter

end SpeedController.Board
