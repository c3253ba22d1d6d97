import SpeedController.Device.Step

/-!
# Runs of the device

Everything that can happen to a device whose transport and store are in memory, and what the device
is after a sequence of events.
-/

namespace SpeedController

open Link Power Receiver
open Settings (RamStore)

/-- A device whose transport and store are in memory. -/
abbrev BenchDevice := Device Loopback RamStore

/-- Something that happens to a device. -/
inductive Event where
  | edge (channel : Channel) (now : UInt16)
  | watchdog
  | drain
  | pulse (p : Pulse)
  | update
  | step (now : UInt32)
  | overflow
  | compare (motor : Motor)
  | receive (bytes : List UInt8)
  | collect
  | failWrites (fail : Bool)
  | failLoads (fail : Bool)
  deriving DecidableEq, Repr

namespace Device

/-- The device after an event. -/
def handle (d : BenchDevice) : Event → BenchDevice
  | .edge channel now => (d.edge channel now).2
  | .watchdog => d.watchdog.2
  | .drain => d.drain.2
  | .pulse p => (d.onPulse p).2
  | .update => d.update.2
  | .step now => (d.step now).2
  | .overflow => d.order .overflow
  | .compare motor => d.order (.compare motor)
  | .receive bytes => { d with transport := d.transport.inject bytes }
  | .collect => { d with transport := d.transport.takeSent.2 }
  | .failWrites fail => { d with store.failWrites := fail }
  | .failLoads fail => { d with store.failLoads := fail }

/-- The device after a sequence of events. -/
def run (d : BenchDevice) (es : List Event) : BenchDevice := es.foldl handle d

@[simp] theorem run_nil (d : BenchDevice) : d.run [] = d := rfl

@[simp] theorem run_cons (d : BenchDevice) (e : Event) (es : List Event) :
    d.run (e :: es) = (d.handle e).run es := rfl

theorem run_append (d : BenchDevice) (es fs : List Event) :
    d.run (es ++ fs) = (d.run es).run fs := List.foldl_append ..

end Device

end SpeedController
