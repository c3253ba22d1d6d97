import SpeedController.Proofs.Device.Hosting
import SpeedController.Proofs.Device.Isolation

/-!
# Faults

The phase is kept as a byte, and a byte that is not the code of a phase is read as a fault. Whatever
a device was doing when its phase code was overwritten (`Reached`), its next step takes the motors
off, and from then on it is `Halted`: no move leads out of the fault (`Halted.move`), so the motors
stay off although the control loop goes on to latch commands, and no host is served. The main
statement is `fault_absorbing`.
-/

namespace SpeedController

open Link Power Receiver
open Settings (RamStore Store)

/-- Only the codes of the other phases are not read as a fault. -/
lemma Phase.ofCode_of_unknown {code : UInt8} (unknown : code ∉ [0, 1, 2, 3]) :
    ofCode code = .fault := by
  simp only [List.mem_cons, List.not_mem_nil, or_false, not_or] at unknown
  unfold ofCode
  split
  · exact absurd rfl unknown.1
  · exact absurd rfl unknown.2.1
  · exact absurd rfl unknown.2.2.1
  · exact absurd rfl unknown.2.2.2
  · rfl

/-- The bytes that a stimulus brings. -/
def Stimulus.bytes : Stimulus → List UInt8
  | .event e => e.bytes
  | .signal _ => []

namespace Device

section
variable {T S : Type} {d d' : Device T S} {acts : List Act}

/-- What holds of a device from a step in the fault on. -/
structure Halted (d : Device T S) : Prop where
  fault : d.status.phase = .fault
  disabled : d.motors.latch.enabled = false
  sound : d.motors.Sound

lemma Halted.line_eq_false (h : d.Halted) (m : Motor) (leg : Direction) :
    d.motors.stage.line m leg = false := by
  refine Bool.eq_false_iff.2 fun high => ?_
  have enabled := (h.sound.driven m leg high).1
  rw [h.disabled] at enabled
  cases enabled

variable [Transport T] [Store S]

/-- The motors are only touched by orders. -/
lemma Move.sound (h : Move d acts d') (sound : d.motors.Sound) : d'.motors.Sound := by
  cases h with
  | sense | sample | calibrate | outside => exact sound
  | mix => exact (sound.obey _).obey _
  | interrupt => exact sound.obey _
  | step h =>
    cases h with
    | ask | greet | idle | withdraw | wait | answer | listen => exact sound
    | launch | drive | brake | halt => exact sound.obey _

lemma Moves.sound (h : Moves d acts d') (sound : d.motors.Sound) : d'.motors.Sound := by
  induction h with
  | refl => exact sound
  | tail _ last ih => exact last.sound ih

/-- No move leads out of the fault, and none enables the motors there. -/
lemma Halted.move (h : d.Halted) (move : Move d acts d') : d'.Halted := by
  have sound := move.sound h.sound
  cases move with
  | sense | sample | calibrate | mix | outside => exact ⟨h.fault, h.disabled, sound⟩
  | interrupt event =>
    rcases event with rfl | ⟨m, rfl⟩ <;> exact ⟨h.fault, h.disabled, sound⟩
  | step transition =>
    have fault := h.fault
    cases transition with
    | halt => exact ⟨Status.phase_enter _ _, rfl, sound⟩
    | ask start | greet start | idle start | withdraw start | wait start | launch start =>
      simp [fault] at start
    | drive driving | brake driving => simp [Driving, fault] at driving
    | answer config | listen config => simp [fault] at config

lemma Halted.moves (h : d.Halted) (moves : Moves d acts d') : d'.Halted := by
  induction moves with
  | refl => exact h
  | tail _ last ih => exact ih.move last

/-- A step in the fault. -/
lemma step_of_fault (fault : d.status.phase = .fault) (now : UInt32) :
    d.step now = (.fault,
      { d with motors := d.motors.obey .disable, status := d.status.enter .fault }) :=
  (Transition.halt fault).step_eq

end

/-- The device after a byte has been stored in place of its phase code. -/
def corrupt (d : BenchDevice) (code : UInt8) : BenchDevice := { d with status.phaseCode := code }

/-- The devices that come of a power-up, by stimuli and by bytes that are stored in place of the phase
code. -/
inductive Reached (version : Version) (transport : Loopback) (store : RamStore) :
    BenchDevice → Prop where
  | boot :
    Reached version transport store (boot version transport store).2
  | react {d} (s : Stimulus) :
    Reached version transport store d → Reached version transport store (d.react s)
  | corrupt {d} (code : UInt8) :
    Reached version transport store d → Reached version transport store (d.corrupt code)

variable {version : Version} {transport : Loopback} {store : RamStore} {d : BenchDevice}

lemma Reached.reactAll (h : Reached version transport store d) (ss : List Stimulus) :
    Reached version transport store (d.reactAll ss) := by
  induction ss generalizing d with
  | nil => exact h
  | cons s ss ih => exact ih (h.react s)

lemma exists_moves_react (d : BenchDevice) (s : Stimulus) : ∃ acts, Moves d acts (d.react s) := by
  cases s with
  | event e => exact ⟨_, moves_handle d e⟩
  | signal good => exact ⟨[], Move.sense.moves⟩

lemma exists_moves_reactAll (d : BenchDevice) (ss : List Stimulus) :
    ∃ acts, Moves d acts (d.reactAll ss) := by
  induction ss generalizing d with
  | nil => exact ⟨[], .refl⟩
  | cons s ss ih =>
    obtain ⟨as, first⟩ := d.exists_moves_react s
    obtain ⟨bs, rest⟩ := ih (d.react s)
    exact ⟨as ++ bs, first.trans rest⟩

lemma Reached.sound (h : Reached version transport store d) : d.motors.Sound := by
  induction h with
  | boot => exact (guarded_boot version transport store).sound
  | @react d s _ ih =>
    obtain ⟨acts, moves⟩ := d.exists_moves_react s
    exact moves.sound ih
  | corrupt code _ ih => exact ih

/-- A step in the fault serves no host. -/
lemma passed_step_of_fault (fault : d.status.phase = .fault) (now : UInt32) :
    Passed d [] (d.step now).2 := by
  rw [step_of_fault fault]
  exact ⟨(Status.phase_enter _ _).trans fault.symm, rfl, (Fifo.offer_nil _).symm, rfl⟩

/-- Nothing that happens in the fault serves a host. -/
lemma passed_react_of_fault (fault : d.status.phase = .fault) (s : Stimulus) :
    Passed d s.bytes (d.react s) := by
  cases s with
  | signal good => exact ⟨rfl, rfl, (Fifo.offer_nil _).symm, rfl⟩
  | event e =>
    have between (other : e.isStep = false) : Passed d e.bytes (d.handle e) := d.passed_handle other
    cases e with
    | step now => exact passed_step_of_fault fault now
    | edge | watchdog | drain | pulse | update | overflow | compare | receive | collect
    | failWrites | failLoads => exact between rfl

lemma passed_reactAll_of_fault (fault : d.status.phase = .fault) (ss : List Stimulus) :
    Passed d (ss.flatMap Stimulus.bytes) (d.reactAll ss) := by
  induction ss generalizing d with
  | nil => exact ⟨rfl, rfl, (Fifo.offer_nil _).symm, rfl⟩
  | cons s ss ih =>
    have first := passed_react_of_fault fault s
    exact first.trans (ih (first.phase.trans fault))

/-- In any state that a device can reach, let a byte other than the codes of the start, the active,
the failsafe and the config phase be stored in place of the phase code, and let the device go on to a
step. The step answers the fault and takes the motors off. Whatever happens then, the device stays
in the fault and the motors stay off with all legs low. No byte is taken from the transport and
neither the settings nor the stored block change, from the moment at which the code was stored. -/
theorem fault_absorbing {version : Version} {transport : Loopback} {store : RamStore}
    {d : BenchDevice} (reached : Reached version transport store d) {code : UInt8}
    (unknown : code ∉ [0, 1, 2, 3]) (before after : List Stimulus) (now : UInt32) :
    let struck := (d.corrupt code).reactAll before
    let halted := (struck.step now).2
    let d' := halted.reactAll after
    ((struck.step now).1 = .fault ∧ halted.motors.latch.enabled = false ∧
      halted.transport.incoming = d.transport.incoming.offer (before.flatMap Stimulus.bytes) ∧
      halted.status.settings = d.status.settings ∧ halted.store.block = d.store.block) ∧
    d'.status.phase = .fault ∧ d'.motors.latch.enabled = false ∧
      (∀ m leg, d'.motors.stage.line m leg = false) ∧
      d'.transport.incoming = halted.transport.incoming.offer (after.flatMap Stimulus.bytes) ∧
      d'.status.settings = halted.status.settings ∧ d'.store.block = halted.store.block := by
  intro struck halted d'
  have fault : (d.corrupt code).status.phase = .fault := Phase.ofCode_of_unknown unknown
  have waited : Passed (d.corrupt code) _ struck := passed_reactAll_of_fault fault before
  have fault : struck.status.phase = .fault := waited.phase.trans fault
  have sound : struck.motors.Sound := by
    obtain ⟨acts, moves⟩ := (d.corrupt code).exists_moves_reactAll before
    exact moves.sound reached.sound
  -- the step that halts the device
  have stepped := step_of_fault fault now
  have halts : halted.Halted := by
    show (struck.step now).2.Halted
    rw [stepped]
    exact ⟨Status.phase_enter _ _, rfl, sound.obey _⟩
  have met : Passed _ _ halted := waited.trans (passed_step_of_fault fault now)
  rw [List.append_nil] at met
  -- what happens from then on
  have halts' : d'.Halted := by
    obtain ⟨acts, moves⟩ := exists_moves_reactAll halted after
    exact halts.moves moves
  have passed : Passed halted _ d' := passed_reactAll_of_fault halts.fault after
  exact ⟨⟨congrArg Prod.fst stepped, halts.disabled, met.incoming,
      congrArg Memory.settings met.memory, congrArg Memory.block met.memory⟩,
    halts'.fault, halts'.disabled, halts'.line_eq_false, passed.incoming,
    congrArg Memory.settings passed.memory, congrArg Memory.block passed.memory⟩

/-- The code is overwritten while the left-hand motor turns forward, and a host asks for the settings.
Later the control loop latches a command again, but the motor does not turn and the host waits. -/
theorem fault_absorbing_drive :
    let past : List Event := launch ++ [.pulse ⟨.ch1, 500, 0⟩, .compare .left, .receive [readKind]]
    let d := unset.reactAll (past.map .event)
    let struck := (d.corrupt 0xA5).reactAll [.event .overflow]
    let halted := (struck.step 2).2
    let d' := halted.reactAll [.signal false, .event (.step 3),
      .event (.pulse ⟨.ch1, 500, 0⟩), .event (.compare .left)]
    d.motors.stage.line .left .forward = true ∧ (struck.step 2).1 = .fault ∧
      d'.motors.latch.commands.left.duty ≠ 0 ∧ d'.motors.stage.line .left .forward = false ∧
      d'.transport.incoming.entries = [readKind] := by
  intro past d struck halted d'
  have reached : Reached .mixer .empty (.holding Settings.erasedBlock) d := .reactAll .boot _
  have unknown : (0xA5 : UInt8) ∉ [0, 1, 2, 3] := by decide
  obtain ⟨⟨fault, -⟩, -, -, low, -⟩ := fault_absorbing reached unknown [.event .overflow]
    [.signal false, .event (.step 3), .event (.pulse ⟨.ch1, 500, 0⟩), .event (.compare .left)] 2
  exact ⟨by decide +kernel, fault, by decide +kernel, low .left .forward, by decide +kernel⟩

end Device

end SpeedController
