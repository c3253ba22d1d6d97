import SpeedController.Proofs.Device.Calibration
import SpeedController.Proofs.Mixing.Delta

/-!
# Before the first calibration

A mixer without a calibration has idle lines, so it gives no duty in tank mode. Its planes are those of
the settings, and in delta mode they are evaluated around centred sticks as if these were known to rest
there (`Mixer.duty_uncalibrated_iff`). Until the first calibration of a run the mixer is this one
(`mixer_of_uncalibrated`), and what it mixes is latched (`uncalibrated_duty_iff`), be it a full duty
(`uncalibrated_full_duty`).
-/

namespace SpeedController

open Link Mixing Power Receiver
open Settings (RamStore Store)

namespace Mixing

/-- The motor is not moved by sticks at these samples while their resting positions are unknown. -/
def Unmoved (settings : Settings) (samples : Axes UInt16) (motor : Motor) : Prop :=
  settings.mode = .tank ∨
    dutySize ((settings.planes.get motor).value (samples.ch1.toInt16 - stickCentre.toInt16)
      (samples.ch2.toInt16 - stickCentre.toInt16)).toInt ≤ settings.deadzone.toNat

/-- A mixer without a calibration gives no duty in tank mode, and in delta mode only what the deadzone
leaves of the value of the plane. -/
lemma Mixer.duty_uncalibrated_iff (settings : Settings) (samples : Axes UInt16) (motor : Motor) :
    ((uncalibrated.mix samples settings).get motor).duty = 0 ↔ Unmoved settings samples motor := by
  cases mode : settings.mode with
  | tank =>
    have unknown : ∀ c, uncalibrated.calibration = some c → ∃ travel, c = .take samples travel := by
      intro c taken
      cases taken
    exact iff_of_true (duty_mix unknown mode motor) (.inl mode)
  | delta =>
    have command : (uncalibrated.mix samples settings).get motor =
        deltaCommand (settings.planes.get motor)
          ⟨samples.ch1.toInt16 - stickCentre.toInt16, samples.ch2.toInt16 - stickCentre.toInt16⟩
          settings.deadzone := get_mix_of_delta mode _ _ _
    rw [command, ← UInt8.toNat_inj, toNat_duty_deltaCommand, UInt8.toNat_zero, Unmoved,
      or_iff_right (by simp [mode])]
    dsimp only
    constructor
    · intro none
      by_contra beyond
      rw [if_neg beyond] at none
      omega
    · exact fun within => if_pos within

end Mixing

namespace Device

section
variable {T S : Type} [Transport T] [Store S] {d d' : Device T S} {acts : List Act}

/-- Until the first calibration the mixer stays as it was. -/
lemma Moves.mixer_eq (h : Moves d acts d') (uncalibrated : calibrations acts = []) :
    d'.steering.mixer = d.steering.mixer := by
  induction h with
  | refl => rfl
  | tail first last ih =>
    rw [calibrations_append, List.append_eq_nil_iff] at uncalibrated
    rcases last.mixer_eq with ⟨same, -⟩ | ⟨samples, rfl, -, -⟩
    · rw [same, ih uncalibrated.1]
    · cases uncalibrated.2

/-- Commands are mixed by a control update, from the averages and the live settings. -/
lemma Move.update_eq {commands : Sides Command} (h : Move d [.mix commands] d') :
    d.update = (some commands, d') ∧ commands = d.steering.commands d.status.settings := by
  generalize e : [Act.mix commands] = acts at h
  cases h with
  | mix calm =>
    cases e
    exact ⟨update_of_calm calm, rfl⟩
  | sense | sample | calibrate | step | interrupt | outside => cases e

end

/-- A motor gets no duty from a mixer without a calibration exactly if the mode is tank, or the value of
its plane around centred sticks is within the deadzone. The same goes for the commands that are mixed
and latched in a run before its first calibration, with the averages and the settings of that time. -/
theorem uncalibrated_duty_iff (settings : Settings) (samples : Axes UInt16) (version : Version)
    (transport : Loopback) (store : RamStore) (es : List Event) :
    let boot := (boot version transport store).2
    (∀ motor, ((Mixer.uncalibrated.mix samples settings).get motor).duty = 0 ↔
      Unmoved settings samples motor) ∧
    ∀ (before : List Act) (commands : Sides Command) (after : List Act),
      boot.history es = before ++ .mix commands :: after → calibrations before = [] →
      ∃ d d', Moves boot before d ∧ d.update = (some commands, d') ∧
        d'.motors.latch.commands = commands ∧
        ∀ motor, (commands.get motor).duty = 0 ↔
          Unmoved d.status.settings d.steering.samples motor := by
  intro boot
  refine ⟨Mixer.duty_uncalibrated_iff settings samples, ?_⟩
  intro before commands after split uncalibrated
  have moves := moves_run boot es
  rw [split] at moves
  obtain ⟨d, d', first, mix, -⟩ := moves.split
  obtain ⟨update, rfl⟩ := mix.update_eq
  refine ⟨d, d', first, update, mix.mix_inv, fun motor => ?_⟩
  have mixer : d.steering.mixer = .uncalibrated := first.mixer_eq uncalibrated
  rw [Steering.commands, mixer]
  exact Mixer.duty_uncalibrated_iff _ _ motor

/-- A plane that is level at the motor units of a stop. -/
def levelSettings : Settings :=
  { Settings.factory with mode := .delta, planes := ⟨⟨8160, 0, 0⟩, ⟨100, 0, 0⟩⟩ }

/-- The right-hand motor stays within the deadzone, and the left-hand one does not. -/
theorem uncalibrated_duty_iff_level :
    let boot := (boot .mixer .empty (.holding levelSettings.encode)).2
    let commands : Sides Command := ⟨⟨.forward, 255⟩, ⟨.forward, 0⟩⟩
    ¬Unmoved levelSettings ⟨125, 125⟩ .left ∧ Unmoved levelSettings ⟨125, 125⟩ .right ∧
      boot.history [.pulse ⟨.ch1, 375, 0⟩] = [] ++ .mix commands :: [] ∧
      ∃ d d', Moves boot [] d ∧ d.update = (some commands, d') ∧
        d'.motors.latch.commands = commands ∧
        ∀ motor, (commands.get motor).duty = 0 ↔
          Unmoved d.status.settings d.steering.samples motor := by
  intro boot commands
  have split : boot.history [.pulse ⟨.ch1, 375, 0⟩] = [] ++ .mix commands :: [] := by decide +kernel
  obtain ⟨duty, latched⟩ := uncalibrated_duty_iff levelSettings ⟨125, 125⟩ .mixer .empty
    (.holding levelSettings.encode) [.pulse ⟨.ch1, 375, 0⟩]
  have left := not_congr (duty .left)
  exact ⟨left.1 (by decide), (duty .right).1 (by decide), split, latched _ _ _ split rfl⟩

/-- Before any calibration, a device in delta mode latches a full duty at its first control update. -/
theorem uncalibrated_full_duty :
    let boot := (boot .mixer .empty (.holding levelSettings.encode)).2
    (Mixer.uncalibrated.mix ⟨125, 125⟩ levelSettings).left = ⟨.forward, 255⟩ ∧
      boot.history [.update] = [.mix ⟨⟨.forward, 255⟩, ⟨.forward, 0⟩⟩] ∧
      (boot.run [.update]).motors.latch.commands.left = ⟨.forward, 255⟩ ∧
      (boot.run [.update]).steering.mixer = .uncalibrated := by
  decide +kernel

end Device

end SpeedController
