import SpeedController.Link.Session
import SpeedController.Power.Driver
import SpeedController.Receiver.Acquisition
import SpeedController.Receiver.Queue
import SpeedController.Status
import SpeedController.Steering

/-!
# The device

All parts of the speed controller together. Edge interrupts complete pulses and queue them, the
watchdog judges the signal, and the control loop takes the pulses off the queue and latches a
command for each motor. The transport and the store are parameters.
-/

namespace SpeedController

open Link Power Receiver
open Settings (Store)

/-- What the supervisor remembers: its session with the host, and whether it waits for a calibration
that it has asked for. -/
structure Supervisor where
  session : Session
  calibrating : Bool
  deriving DecidableEq, Repr

/-- A speed controller with its transport and its store. -/
structure Device (T S : Type) where
  status : Status
  acquisition : Acquisition
  queue : PulseQueue
  steering : Steering
  supervisor : Supervisor
  motors : MotorDriver PinStage
  transport : T
  store : S
  deriving DecidableEq

namespace Device

variable {T S : Type} [Transport T] [Store S]

/-- Power up. The device runs on the factory settings when its own cannot be restored. -/
def boot (version : Version) (transport : T) (store : S) :
    Except Settings.Error Unit × Device T S :=
  let (restored, store) := Settings.restore store
  (restored.map fun _ => (), {
    status := .boot (match restored with | .ok s => s | .error _ => .factory)
    acquisition := .start
    queue := .empty
    steering := .start
    supervisor := ⟨.start version, false⟩
    motors := .start .powerUp
    transport
    store })

/-- Take an edge of a channel. A pulse that it completes is queued, if there is room; the answer
holds the pulse and whether it was queued. -/
def edge (d : Device T S) (channel : Channel) (now : UInt16) :
    Option (Pulse × Bool) × Device T S :=
  match d.acquisition.edge channel now with
  | (none, acquisition) => (none, { d with acquisition })
  | (some pulse, acquisition) =>
    match d.queue.push? pulse with
    | some queue => (some (pulse, true), { d with acquisition, queue })
    | none => (some (pulse, false), { d with acquisition })

/-- Close the watchdog window and publish its verdict. -/
def watchdog (d : Device T S) : Signal × Device T S :=
  let (signal, acquisition) := d.acquisition.closeWindow
  (signal, { d with acquisition, status.signalGood := signal = .good })

/-- Run a control update. If a calibration is due the averages become the resting positions and no
command is given; otherwise both motors get theirs. -/
def update (d : Device T S) : Option (Sides Command) × Device T S :=
  match d.status.takeCalibration with
  | (true, status) =>
    (none, { d with status, steering := d.steering.calibrate d.status.settings })
  | (false, _) =>
    let commands := d.steering.commands d.status.settings
    (some commands, { d with motors := d.motors.setBoth commands })

/-- Take a pulse into account. One that carries no sample is dropped. -/
def onPulse (d : Device T S) (p : Pulse) : Option (Sides Command) × Device T S :=
  match p.sample? with
  | none => (none, d)
  | some sample => { d with steering := d.steering.push p.channel sample }.update

/-- Take all queued pulses into account, oldest first. The answer is their number. -/
def drain (d : Device T S) : Nat × Device T S :=
  (d.queue.length,
    { d.queue.entries.foldl (fun d p => (d.onPulse p).2) d with queue := .empty })

end Device

end SpeedController
