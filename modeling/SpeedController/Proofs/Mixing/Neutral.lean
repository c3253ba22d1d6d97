import Mathlib.Tactic.Lemma
import SpeedController.Mixing.Mixer

/-!
# Resting sticks

A line meets the end of its range exactly (`Line.value_of_through`), whatever its slope, so a stick
at its resting position asks for no duty, and neither does any stick before the first calibration
(`mix_at_rest`).
-/

namespace SpeedController.Mixing

open Power Receiver

/-- A line meets the end of its range. -/
lemma Line.value_of_through {inLow inHigh outLow outHigh : Int16} {l : Line}
    (h : through inLow inHigh outLow outHigh = .ok l) : l.value inHigh = outHigh := by
  unfold through at h
  dsimp only at h
  split at h
  · cases h
  · cases h
    rw [value, Int32.add_comm, Int32.sub_add_cancel, Int16.toInt16_toInt32]

lemma Line.value_idle (x : Int16) : idle.value x = 0 := by
  rw [value, show idle.slope = 0 from rfl, Int32.zero_mul]
  rfl

/-- A line that ends at 0, or the idle one in its place. -/
lemma Line.value_throughOrIdle (inLow inHigh outLow : Int16) :
    (throughOrIdle inLow inHigh outLow 0).value inHigh = 0 := by
  unfold throughOrIdle
  cases through : through inLow inHigh outLow 0 with
  | ok line => exact value_of_through through
  | error _ => exact value_idle inHigh

/-- No motor units are no duty. -/
lemma suppress_zero (deadzone : UInt8) : suppress deadzone (dutyOf (0 : Int16).toInt32) = 0 := by
  have zero : dutyOf (0 : Int16).toInt32 = 0 := by decide
  rw [zero]
  exact ite_self _

namespace Calibration

lemma neutral_take (samples : Axes UInt16) (travel : Axes Travel) (channel : Channel) :
    (take samples travel).neutral.get channel = (samples.get channel).toInt16 :=
  samples.get_map _ channel

lemma lines_take (samples : Axes UInt16) (travel : Axes Travel) (channel : Channel) :
    (take samples travel).lines.get channel =
      .around (samples.get channel).toInt16 (travel.get channel) := by
  cases channel <;> rfl

/-- A stick at its resting position is on the backward line, at the end that is 0. -/
lemma duty_take (samples : Axes UInt16) (travel : Axes Travel) (channel : Channel)
    (deadzone : UInt8) :
    ((take samples travel).tankCommand channel (samples.get channel).toInt16 deadzone).duty = 0 := by
  rw [tankCommand, neutral_take, if_neg Int16.lt_irrefl]
  dsimp only
  rw [lines_take, StickLines.around, Line.value_throughOrIdle]
  exact suppress_zero deadzone

/-- Without a calibration every stick is on an idle line. -/
lemma duty_idle (channel : Channel) (position : Int16) (deadzone : UInt8) :
    (idle.tankCommand channel position deadzone).duty = 0 := by
  have lines : idle.lines.get channel = ⟨.idle, .idle⟩ := Axes.get_both _ channel
  rw [tankCommand, lines]
  by_cases ahead : idle.neutral.get channel < position
  · rw [if_pos ahead]
    dsimp only
    rw [Line.value_idle]
    exact suppress_zero deadzone
  · rw [if_neg ahead]
    dsimp only
    rw [Line.value_idle]
    exact suppress_zero deadzone

end Calibration

/-- In tank mode no motor gets a duty while the samples are those of the calibration, or before there
is one. -/
lemma Mixer.duty_mix {m : Mixer} {samples : Axes UInt16} {settings : Settings}
    (rest : ∀ c, m.calibration = some c → ∃ travel, c = .take samples travel)
    (tank : settings.mode = .tank) (motor : Motor) : ((m.mix samples settings).get motor).duty = 0 := by
  have inForce (channel : Channel) :
      (m.inForce.tankCommand channel (samples.get channel).toInt16 settings.deadzone).duty = 0 := by
    cases calibration : m.calibration with
    | none =>
      rw [inForce, calibration, Option.getD_none]
      exact Calibration.duty_idle _ _ _
    | some c =>
      obtain ⟨travel, rfl⟩ := rest c calibration
      rw [Mixer.inForce, calibration, Option.getD_some]
      exact Calibration.duty_take samples travel channel settings.deadzone
  cases motor with
  | left =>
    simp only [mix, tank, Sides.get, Axes.map]
    exact inForce .ch1
  | right =>
    simp only [mix, tank, Sides.get, Axes.map]
    exact inForce .ch2

end SpeedController.Mixing
