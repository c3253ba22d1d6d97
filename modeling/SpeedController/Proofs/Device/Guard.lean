import SpeedController.Proofs.Device.History
import SpeedController.Proofs.Power.Interlock

/-!
# Guard of the motors

`Guarded` couples the phase, the calibration flags, the mixer and the motor driver of a device. It
holds at power-up (`guarded_boot`), every move keeps it (`Guarded.move`), and so it holds in every
run (`Guarded.moves`). What a user relies on is read off it in `motors_guarded`: motors turn only in
the active phase, that phase is calibrated, and after a step that saw no signal no leg is high until
a step sees one again.
-/

namespace SpeedController

open Link Power Receiver
open Settings (Store)

namespace Device

variable {T S : Type}

/-- What holds of a device in every run. -/
structure Guarded (d : Device T S) : Prop where
  sound : d.motors.Sound
  sane : d.status.phase ≠ .fault
  enabled_iff : d.motors.latch.enabled = true ↔ d.status.phase = .active
  driving : d.Driving → d.steering.mixer.calibration.isSome = true ∧ d.status.calibrationDue = false
  due : d.status.calibrationDue = true → d.supervisor.calibrating = true
  calibrating : d.supervisor.calibrating = true → d.status.phase = .start
  taken : d.supervisor.calibrating = true → d.status.calibrationDue = false →
    d.steering.mixer.calibration.isSome = true

/-- Outside the start phase nothing is due and nothing is waited for. -/
lemma Guarded.settled {d : Device T S} (g : d.Guarded) (other : d.status.phase ≠ .start) :
    d.supervisor.calibrating = false ∧ d.status.calibrationDue = false := by
  have free : d.supervisor.calibrating = false :=
    Bool.eq_false_iff.2 fun waiting => other (g.calibrating waiting)
  refine ⟨free, Bool.eq_false_iff.2 fun due => ?_⟩
  rw [g.due due] at free
  cases free

/-- Without an enabled command no leg is high. -/
lemma Guarded.line_eq_false {d : Device T S} (g : d.Guarded) (quiet : d.status.phase ≠ .active)
    (m : Motor) (leg : Direction) : d.motors.stage.line m leg = false :=
  Bool.eq_false_iff.2 fun high => quiet (g.enabled_iff.1 (g.sound.driven m leg high).1)

variable [Store S]

/-- A device is guarded at power-up. -/
lemma guarded_boot (version : Version) (transport : T) (store : S) :
    (boot version transport store).2.Guarded where
  sound := by
    apply MotorDriver.Sound.start
    intro m leg
    cases m <;> cases leg <;> rfl
  sane := by simp [boot, Status.boot, Status.phase]
  enabled_iff := by simp [boot, Status.boot, Status.phase, MotorDriver.start, Latch.idle]
  driving := by simp [Driving, boot, Status.boot, Status.phase]
  due := by simp [boot, Status.boot]
  calibrating := by simp [boot]
  taken := by simp [boot]

variable [Transport T]

/-- A step keeps a device guarded. -/
lemma Guarded.transition {d d' : Device T S} {now : UInt32} {p : Phase} (g : d.Guarded)
    (h : Transition d now p d') : d'.Guarded := by
  cases h with
  | idle | listen => exact { g with }
  | wait => exact g
  | ask start =>
    exact { g with
      driving := fun h => absurd start h.ne_start
      due := fun _ => rfl
      calibrating := fun _ => start
      taken := nofun }
  | withdraw start =>
    exact { g with
      driving := fun h => absurd start h.ne_start
      due := nofun
      calibrating := nofun
      taken := nofun }
  | launch start waiting _ calm =>
    exact { g with
      sound := g.sound.obey _
      sane := by simp
      enabled_iff := by simp [MotorDriver.obey, Latch.next]
      driving := fun _ => ⟨g.taken waiting calm, calm⟩
      due := fun due => absurd (calm.symm.trans due) Bool.false_ne_true
      calibrating := nofun
      taken := nofun }
  | drive driving =>
    have calm := g.settled driving.ne_start
    exact { g with
      sound := g.sound.obey _
      sane := by simp
      enabled_iff := by simp [MotorDriver.obey, Latch.next]
      driving := fun _ => g.driving driving
      calibrating := by simp [calm.1] }
  | brake driving =>
    have calm := g.settled driving.ne_start
    exact { g with
      sound := g.sound.obey _
      sane := by simp
      enabled_iff := by simp [MotorDriver.obey, Latch.next, Latch.idle]
      driving := fun _ => g.driving driving
      calibrating := by simp [calm.1] }
  | greet start free =>
    exact { g with
      sane := by simp
      enabled_iff := by simp [g.enabled_iff, start]
      driving := by simp [Driving]
      calibrating := by simp [free] }
  | answer config =>
    exact { g with
      sane := by simp
      enabled_iff := by simp [g.enabled_iff, config]
      driving := by simp [Driving]
      calibrating := fun _ => Status.phase_enter _ _ }
  | halt fault => exact absurd fault g.sane

/-- A move keeps a device guarded. -/
lemma Guarded.move {d d' : Device T S} {acts : List Act} (g : d.Guarded) (h : Move d acts d') :
    d'.Guarded := by
  cases h with
  | sense | sample | outside => exact { g with }
  | step h => exact g.transition h
  | calibrate =>
    exact { g with
      driving := fun _ => ⟨rfl, rfl⟩
      due := nofun
      taken := fun _ _ => rfl }
  | mix => exact { g with sound := (g.sound.obey _).obey _ }
  | interrupt event =>
    rcases event with rfl | ⟨m, rfl⟩ <;> exact { g with sound := g.sound.obey _ }

/-- Moves keep a device guarded. -/
lemma Guarded.moves {d d' : Device T S} {acts : List Act} (g : d.Guarded) (h : Moves d acts d') :
    d'.Guarded := by
  induction h with
  | refl => exact g
  | tail _ last ih => exact ih.move last

/-- A step that reads a bad signal does not end in the active phase. -/
lemma Transition.ne_active {d d' : Device T S} {now : UInt32} {p : Phase} (h : Transition d now p d')
    (lost : d.status.signalGood = false) : p ≠ .active := by
  cases h with
  | launch _ _ good => simp [lost] at good
  | drive _ good => simp [lost] at good
  | ask | greet | idle | withdraw | wait | brake | answer | listen | halt => simp

/-- A device that is not active becomes active only in a step that reads a good signal. -/
lemma Move.ne_active {d d' : Device T S} {acts : List Act} (h : Move d acts d')
    (quiet : d.status.phase ≠ .active)
    (lost : ∀ asked source target, .step true asked source target ∉ acts) :
    d'.status.phase ≠ .active := by
  cases h with
  | sense | sample | calibrate | mix | interrupt | outside => exact quiet
  | step h =>
    rw [h.phase_eq]
    cases good : d.status.signalGood with
    | false => exact h.ne_active good
    | true =>
      rw [stepAct, good] at lost
      exact absurd List.mem_cons_self (lost _ _ _)

/-- A device that is not active stays so as long as no step reads a good signal. -/
lemma Moves.ne_active {d d' : Device T S} {acts : List Act} (h : Moves d acts d')
    (quiet : d.status.phase ≠ .active)
    (lost : ∀ asked source target, .step true asked source target ∉ acts) :
    d'.status.phase ≠ .active := by
  induction h with
  | refl => exact quiet
  | tail _ last ih =>
    apply last.ne_active (ih ?_)
    · exact fun a s t h => lost a s t (List.mem_append_right _ h)
    · exact fun a s t h => lost a s t (List.mem_append_left _ h)

/-- In every run from power-up the motors are enabled in the active phase and in no other, a high
leg belongs to enabled motors, the phases that follow the signal are calibrated, and a calibration
is only due while the supervisor waits for it in the start phase. After a step that read a bad
signal every leg stays low until a step reads a good one. -/
theorem motors_guarded (version : Version) (transport : Loopback) (store : Settings.RamStore)
    (es : List Event) :
    let boot := (boot version transport store).2
    let d := boot.run es
    (d.motors.latch.enabled = true ↔ d.status.phase = .active) ∧
    (∀ m leg, d.motors.stage.line m leg = true → d.motors.latch.enabled = true) ∧
    (d.status.phase = .active ∨ d.status.phase = .failsafe →
      d.steering.mixer.calibration.isSome = true ∧ d.status.calibrationDue = false) ∧
    (d.status.calibrationDue = true →
      d.status.phase = .start ∧ d.supervisor.calibrating = true) ∧
    ∀ before asked source target after,
      boot.history es = before ++ .step false asked source target :: after →
      (∀ asked source target, .step true asked source target ∉ after) →
      ∀ m leg, d.motors.stage.line m leg = false := by
  intro boot d
  have g : d.Guarded := (guarded_boot version transport store).moves (moves_run boot es)
  refine ⟨g.enabled_iff, fun m leg high => (g.sound.driven m leg high).1, g.driving,
    fun due => ⟨g.calibrating (g.due due), g.due due⟩, ?_⟩
  intro before asked source target after split lost
  have moves := moves_run boot es
  rw [split] at moves
  obtain ⟨d₁, d₂, -, last, rest⟩ := moves.split
  -- the step in question leaves the device inactive, and the rest of the run keeps it so
  obtain ⟨bad, -, now, step⟩ := last.step_inv
  have quiet : d₂.status.phase ≠ .active := by
    rw [step.phase_eq]
    exact step.ne_active bad
  exact g.line_eq_false (rest.ne_active quiet lost)

/-- The forward leg of a motor is high; then the signal is lost, and it is low in spite of a new
command and an interrupt. -/
theorem motors_guarded_lost_signal :
    let high := unset.run (launch ++ [.pulse ⟨.ch1, 500, 0⟩, .compare .left])
    let low := high.run [.watchdog, .step 2, .pulse ⟨.ch1, 500, 0⟩, .compare .left]
    high.motors.stage.line .left .forward = true ∧ high.status.phase = .active ∧
      low.motors.stage.line .left .forward = false := by
  intro high low
  have line : high.motors.stage.line .left .forward = true := by decide +kernel
  have guarded := motors_guarded .mixer .empty (.holding Settings.erasedBlock)
  refine ⟨line, ?_, ?_⟩
  · obtain ⟨enabled_iff, driven, -⟩ :=
      guarded (launch ++ [.pulse ⟨.ch1, 500, 0⟩, .compare .left])
    exact enabled_iff.1 (driven .left .forward line)
  · obtain ⟨-, -, -, -, quiet⟩ := guarded (launch ++ [.pulse ⟨.ch1, 500, 0⟩, .compare .left] ++
      [.watchdog, .step 2, .pulse ⟨.ch1, 500, 0⟩, .compare .left])
    rw [run_append] at quiet
    refine quiet [.step true true .start .start, .calibrate ⟨125, 125⟩,
      .step true false .start .active, .mix ⟨⟨.forward, 64⟩, ⟨.backward, 0⟩⟩]
      false .active .failsafe [.mix ⟨⟨.forward, 127⟩, ⟨.backward, 0⟩⟩] ?_ (by simp) .left .forward
    decide +kernel

end Device

end SpeedController
