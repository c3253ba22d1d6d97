import SpeedController.Device.Basic

/-!
# Supervision

The supervisor moves the device between its phases, by at most one transition in a step.

* From the start phase, bytes of a host that come while there is no signal lead to the config phase,
  and a good signal to a calibration and then to the active phase.
* The config phase ends with the first request that is answered.
* The active phase and the failsafe phase follow the signal, and only in the active phase do
  commands reach the motors.
* An unknown phase code is a fault, which is never left.
-/

namespace SpeedController.Device

open Link Power
open Settings (Store)

variable {T S : Type} [Transport T] [Store S]

/-- Give the motor outputs an order. -/
def order (d : Device T S) (o : Order) : Device T S := { d with motors := d.motors.obey o }

/-- Wait in the start phase for a signal or for a host. -/
def awaitSignal (d : Device T S) (now : UInt32) : Phase × Device T S :=
  if d.status.signalGood then
    (.start, { d with status.calibrationDue := true, supervisor.calibrating := true })
  else
    match Transport.hasData d.transport with
    | (true, transport) =>
      (.config, { d with transport, supervisor.session := d.supervisor.session.restart now })
    | (false, transport) => (.start, { d with transport })

/-- Wait in the start phase for the calibration that has been asked for. -/
def awaitCalibration (d : Device T S) : Phase × Device T S :=
  if !d.status.signalGood then
    (.start, { d with status.calibrationDue := false, supervisor.calibrating := false })
  else if d.status.calibrationDue then (.start, d)
  else (.active, { d with supervisor.calibrating := false }.order .enable)

/-- Let the signal decide between the active and the failsafe phase. -/
def followSignal (d : Device T S) : Phase × Device T S :=
  if d.status.signalGood then (.active, d.order .enable) else (.failsafe, d.order .disable)

/-- Serve the host in the config phase. -/
def serveHost (d : Device T S) (now : UInt32) : Phase × Device T S :=
  let (transaction, session, endpoint) :=
    d.supervisor.session.poll ⟨d.transport, d.store, d.status.settings⟩ now
  (if transaction.isSome then .start else .config,
    { d with
      supervisor.session := session
      transport := endpoint.transport
      store := endpoint.store
      status.settings := endpoint.settings })

/-- What is done in the present phase, and the phase that comes next. -/
def work (d : Device T S) (now : UInt32) : Phase × Device T S :=
  match d.status.phase with
  | .start => if d.supervisor.calibrating then d.awaitCalibration else d.awaitSignal now
  | .active => d.followSignal
  | .failsafe => d.followSignal
  | .config => d.serveHost now
  | .fault =>
    let d := d.order .disable
    (.fault, { d with status := d.status.enter .fault })

/-- Run the supervisor once. The answer is the phase afterwards. -/
def step (d : Device T S) (now : UInt32) : Phase × Device T S :=
  let (next, d') := d.work now
  (next, if next = d.status.phase then d' else { d' with status := d'.status.enter next })

end SpeedController.Device
