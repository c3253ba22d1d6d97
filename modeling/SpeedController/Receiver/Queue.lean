import SpeedController.Fifo
import SpeedController.Receiver.Pulse

/-!
# Waiting pulses

Completed pulses wait between the edge interrupts and the control loop in a ring. A ring tells full
from empty by leaving one slot free, so it holds one pulse less than it has slots.
-/

namespace SpeedController.Receiver

/-- The slots of the ring. -/
def pulseSlots : Nat := 16

/-- Pulses on their way to the control loop, oldest first. -/
abbrev PulseQueue := Fifo Pulse (pulseSlots - 1)

end SpeedController.Receiver
