import SpeedController.Device.Event

/-!
# Test bench

A device in memory together with the clocks around it: the 16-bit counter that stamps edges, and the
time in milliseconds. The bench plays a receiver that sends a frame, one pulse on each channel, every
20 ms.
-/

namespace SpeedController

open Link Receiver
open Settings (RamStore)

/-- A device and its clocks. `booted` tells how the settings were restored. -/
structure Bench where
  version : Version
  booted : Except Settings.Error Unit
  device : BenchDevice
  clock : UInt16
  now : UInt32

namespace Bench

/-- The length of a frame of the receiver in milliseconds. -/
def frameMillis : UInt32 := 20

/-- The length of a frame of the receiver in ticks. -/
def frameTicks : UInt16 := 5000

/-- Power up on a store. -/
def boot (version : Version) (store : RamStore) : Bench :=
  let (booted, device) := Device.boot version Loopback.empty store
  ⟨version, booted, device, 0, 0⟩

/-- Power up again on the same store. -/
def reboot (b : Bench) : Bench := boot b.version b.device.store

/-- Let time pass. -/
def advance (b : Bench) (millis : UInt32) : Bench := { b with now := b.now + millis }

/-- Receive a pulse of a channel that begins at the present tick. -/
def sendPulse (b : Bench) (channel : Channel) (width : UInt16) : Bench :=
  { b with device := ((b.device.edge channel b.clock).2.edge channel (b.clock + width)).2 }

/-- Receive a frame and let the control loop take what has been queued. The answer is the number of
pulses taken. -/
def frame (b : Bench) (widths : Axes UInt16) : Nat × Bench :=
  let b := (b.sendPulse .ch1 widths.ch1).sendPulse .ch2 widths.ch2
  let (taken, device) := b.device.drain
  (taken, { b with device, clock := b.clock + frameTicks, now := b.now + frameMillis })

/-- Receive several frames alike. The answer is the number of pulses taken. -/
def frames (b : Bench) (widths : Axes UInt16) : Nat → Nat × Bench
  | 0 => (0, b)
  | n + 1 =>
    let (taken, b) := b.frame widths
    let (later, b) := b.frames widths n
    (taken + later, b)

end Bench

end SpeedController
