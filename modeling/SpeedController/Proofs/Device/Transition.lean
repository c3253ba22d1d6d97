import Mathlib.Tactic.Lemma
import SpeedController.Device.Step

/-!
# Transitions of the supervisor

`Transition` lists what a single run of the supervisor can do to a device, with the condition under
which it does it. `step_transition` is the inversion of `Device.step`: all that is proved about runs
of the supervisor goes through the cases of `Transition` and opens no definition of the step.
-/

namespace SpeedController

open Link Power
open Settings (Store)

/-- Only the code of a phase is read as that phase, faults apart. -/
lemma Phase.eq_code_of_ofCode {c : UInt8} {p : Phase} (h : ofCode c = p) (sane : p ≠ .fault) :
    c = p.code := by
  unfold ofCode at h
  split at h <;> subst h <;> first | rfl | exact absurd rfl sane

/-- To move to the present phase changes nothing, faults apart. -/
lemma Status.enter_phase {s : Status} {p : Phase} (h : s.phase = p) (sane : p ≠ .fault) :
    s.enter p = s := by
  rw [enter, ← Phase.eq_code_of_ofCode h sane]

namespace Device

variable {T S : Type}

/-- The phases that follow the signal. -/
def Driving (d : Device T S) : Prop := d.status.phase = .active ∨ d.status.phase = .failsafe

/-- A device that follows the signal is in no other phase. -/
lemma Driving.ne_start {d : Device T S} (h : d.Driving) : d.status.phase ≠ .start := by
  rcases h with h | h <;> simp [h]

variable [Transport T] [Store S]

/-- What a step at time `now` does to a device, with the phase that it answers. -/
inductive Transition (d : Device T S) (now : UInt32) : Phase → Device T S → Prop where
  /-- A good signal leads to a request for calibration. -/
  | ask :
    d.status.phase = .start → d.supervisor.calibrating = false → d.status.signalGood = true →
    Transition d now .start { d with status.calibrationDue := true, supervisor.calibrating := true }
  /-- Bytes of a host that come without a signal lead to the config phase. -/
  | greet {transport} :
    d.status.phase = .start → d.supervisor.calibrating = false → d.status.signalGood = false →
    Transport.hasData d.transport = (true, transport) →
    Transition d now .config { d with
      transport
      supervisor.session := d.supervisor.session.restart now
      status := d.status.enter .config }
  /-- Without signal and bytes nothing happens. -/
  | idle {transport} :
    d.status.phase = .start → d.supervisor.calibrating = false → d.status.signalGood = false →
    Transport.hasData d.transport = (false, transport) →
    Transition d now .start { d with transport }
  /-- A signal that is lost again withdraws the request. -/
  | withdraw :
    d.status.phase = .start → d.supervisor.calibrating = true → d.status.signalGood = false →
    Transition d now .start { d with status.calibrationDue := false, supervisor.calibrating := false }
  /-- The calibration has not been taken yet. -/
  | wait :
    d.status.phase = .start → d.supervisor.calibrating = true → d.status.signalGood = true →
    d.status.calibrationDue = true →
    Transition d now .start d
  /-- The calibration has been taken. -/
  | launch :
    d.status.phase = .start → d.supervisor.calibrating = true → d.status.signalGood = true →
    d.status.calibrationDue = false →
    Transition d now .active { d with
      supervisor.calibrating := false
      motors := d.motors.obey .enable
      status := d.status.enter .active }
  /-- A good signal keeps or makes the device active. -/
  | drive :
    d.Driving → d.status.signalGood = true →
    Transition d now .active { d with
      motors := d.motors.obey .enable
      status := d.status.enter .active }
  /-- Without signal the motors are taken off. -/
  | brake :
    d.Driving → d.status.signalGood = false →
    Transition d now .failsafe { d with
      motors := d.motors.obey .disable
      status := d.status.enter .failsafe }
  /-- A request of the host was answered. -/
  | answer {transaction session endpoint} :
    d.status.phase = .config →
    d.supervisor.session.poll ⟨d.transport, d.store, d.status.settings⟩ now =
      (some transaction, session, endpoint) →
    Transition d now .start { d with
      supervisor.session := session
      transport := endpoint.transport
      store := endpoint.store
      status := { d.status with settings := endpoint.settings }.enter .start }
  /-- No request of the host is complete. -/
  | listen {session endpoint} :
    d.status.phase = .config →
    d.supervisor.session.poll ⟨d.transport, d.store, d.status.settings⟩ now =
      (none, session, endpoint) →
    Transition d now .config { d with
      supervisor.session := session
      transport := endpoint.transport
      store := endpoint.store
      status.settings := endpoint.settings }
  /-- A fault takes the motors off. -/
  | halt :
    d.status.phase = .fault →
    Transition d now .fault { d with
      motors := d.motors.obey .disable
      status := d.status.enter .fault }

/-- A step whose work ends in the phase in which it began. -/
lemma step_stay {d d' : Device T S} {now : UInt32} {next : Phase} (work : d.work now = (next, d'))
    (same : d.status.phase = next) : d.step now = (next, d') := by
  simp only [step, work, same, if_true]

/-- A step whose work ends in another phase. -/
lemma step_move {d d' : Device T S} {now : UInt32} {next : Phase} (work : d.work now = (next, d'))
    (other : d.status.phase ≠ next) :
    d.step now = (next, { d' with status := d'.status.enter next }) := by
  simp only [step, work, other.symm, if_false]

/-- A step in the start phase without an outstanding calibration. -/
lemma transition_awaitSignal {d : Device T S} {now : UInt32} (start : d.status.phase = .start)
    (free : d.supervisor.calibrating = false) : Transition d now (d.step now).1 (d.step now).2 := by
  have work : d.work now = d.awaitSignal now := by simp [work, start, free]
  cases good : d.status.signalGood with
  | true =>
    rw [step_stay (work.trans (if_pos good)) start]
    exact .ask start free good
  | false =>
    have work := work.trans (if_neg (by simp [good]))
    rcases data : Transport.hasData d.transport with ⟨waiting, transport⟩
    rw [data] at work
    cases waiting with
    | true =>
      rw [step_move work (by simp [start])]
      exact .greet start free good data
    | false =>
      rw [step_stay work start]
      exact .idle start free good data

/-- A step that waits for a calibration. -/
lemma transition_awaitCalibration {d : Device T S} {now : UInt32} (start : d.status.phase = .start)
    (waiting : d.supervisor.calibrating = true) : Transition d now (d.step now).1 (d.step now).2 := by
  have work : d.work now = d.awaitCalibration := by simp [work, start, waiting]
  cases good : d.status.signalGood with
  | false =>
    rw [step_stay (work.trans (if_pos (by simp [good]))) start]
    exact .withdraw start waiting good
  | true =>
    have work := work.trans (if_neg (by simp [good]))
    cases due : d.status.calibrationDue with
    | true =>
      rw [step_stay (work.trans (if_pos due)) start]
      exact .wait start waiting good due
    | false =>
      rw [step_move (work.trans (if_neg (by simp [due]))) (by simp [start])]
      exact .launch start waiting good due

/-- A step that follows the signal. -/
lemma transition_followSignal {d : Device T S} {now : UInt32}
    (driving : d.Driving) :
    Transition d now (d.step now).1 (d.step now).2 := by
  have work : d.work now = d.followSignal := by
    rcases driving with phase | phase <;> simp [work, phase]
  cases good : d.status.signalGood with
  | true =>
    have work := work.trans (if_pos good)
    have after : Transition d now _ _ := .drive driving good
    rcases driving with phase | phase
    · rw [step_stay work phase]
      rwa [Status.enter_phase phase (by simp)] at after
    · rw [step_move work (by simp [phase])]
      exact after
  | false =>
    have work := work.trans (if_neg (by simp [good]))
    have after : Transition d now _ _ := .brake driving good
    rcases driving with phase | phase
    · rw [step_move work (by simp [phase])]
      exact after
    · rw [step_stay work phase]
      rwa [Status.enter_phase phase (by simp)] at after

/-- A step that serves the host. -/
lemma transition_serveHost {d : Device T S} {now : UInt32} (config : d.status.phase = .config) :
    Transition d now (d.step now).1 (d.step now).2 := by
  rcases polled : d.supervisor.session.poll ⟨d.transport, d.store, d.status.settings⟩ now with
    ⟨transaction, session, endpoint⟩
  have work : d.work now = (if transaction.isSome then .start else .config,
      { d with
        supervisor.session := session
        transport := endpoint.transport
        store := endpoint.store
        status.settings := endpoint.settings }) := by
    simp [work, config, serveHost, polled]
  cases transaction with
  | some transaction =>
    rw [step_move work (by simp [config])]
    exact .answer config polled
  | none =>
    rw [step_stay work config]
    exact .listen config polled

/-- A step makes one of the transitions. -/
theorem step_transition (d : Device T S) (now : UInt32) : Transition d now (d.step now).1 (d.step now).2 := by
  cases phase : d.status.phase with
  | start =>
    cases waiting : d.supervisor.calibrating with
    | false => exact transition_awaitSignal phase waiting
    | true => exact transition_awaitCalibration phase waiting
  | active => exact transition_followSignal (.inl phase)
  | failsafe => exact transition_followSignal (.inr phase)
  | config => exact transition_serveHost phase
  | fault =>
    have work : d.work now = (.fault, { d.order .disable with status := d.status.enter .fault }) := by
      simp [work, phase, order]
    rw [step_stay work phase]
    exact .halt phase

/-- A transition is the whole of the step that makes it. -/
lemma Transition.step_eq {d d' : Device T S} {now : UInt32} {p : Phase} (h : Transition d now p d') :
    d.step now = (p, d') := by
  cases h with
  | ask start free good => simp [step, work, awaitSignal, start, free, good]
  | greet start free lost data => simp [step, work, awaitSignal, start, free, lost, data]
  | idle start free lost data => simp [step, work, awaitSignal, start, free, lost, data]
  | withdraw start waiting lost => simp [step, work, awaitCalibration, start, waiting, lost]
  | wait start waiting good due => simp [step, work, awaitCalibration, start, waiting, good, due]
  | launch start waiting good due =>
    simp [step, work, awaitCalibration, order, start, waiting, good, due]
  | drive driving good =>
    rcases driving with phase | phase
    · simp [step, work, followSignal, order, phase, good, Status.enter_phase phase]
    · simp [step, work, followSignal, order, phase, good]
  | brake driving lost =>
    rcases driving with phase | phase
    · simp [step, work, followSignal, order, phase, lost]
    · simp [step, work, followSignal, order, phase, lost, Status.enter_phase phase]
  | answer config polled => simp [step, work, serveHost, config, polled]
  | listen config polled => simp [step, work, serveHost, config, polled]
  | halt fault => simp [step, work, order, fault]

/-- The answer of a transition is the phase in which it leaves the device. -/
lemma Transition.phase_eq {d d' : Device T S} {now : UInt32} {p : Phase}
    (h : Transition d now p d') : d'.status.phase = p := by
  cases h with
  | ask start | idle start | withdraw start | wait start => exact start
  | listen config => exact config
  | greet | launch | drive | brake | answer | halt => exact Status.phase_enter _ _

end Device

end SpeedController
