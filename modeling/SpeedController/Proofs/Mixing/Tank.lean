import SpeedController.Proofs.Mixing.Lines

/-!
# Tank mode

While a stick is moved from one end of its travel to the other, the signed command of its motor never
steps back (`Calibration.signed_tankCommand_le`): on either side of the resting position the line
leads one way, and at the resting position the command changes its sign. At the upper end of the
travel the motor gets all of its power (`Calibration.tankCommand_top`).
-/

namespace SpeedController

open Power Receiver

/-- The motor that a channel drives in tank mode. -/
def Receiver.Channel.motor : Channel → Motor
  | .ch1 => .left
  | .ch2 => .right

namespace Power.Command

lemma signed_forward (duty : UInt8) : signed ⟨.forward, duty⟩ = duty.toNat := rfl

lemma signed_backward (duty : UInt8) : signed ⟨.backward, duty⟩ = -duty.toNat := rfl

end Power.Command

namespace Mixing

/-- A duty is worth 32 motor units, and it is limited to a byte. -/
lemma toNat_dutyOf (v : Int32) : (dutyOf v).toNat = min (v.toInt / 32).toNat 255 := by
  have shifted : v.toInt >>> outputShift = v.toInt / 32 := Int.shiftRight_eq_div_pow _ _
  rw [dutyOf, shifted]
  exact UInt8.toNat_ofNat_of_lt' (Nat.lt_of_le_of_lt (Nat.min_le_right _ _) (by decide))

/-- More motor units are no smaller duty. -/
lemma dutyOf_le {v w : Int32} (le : v.toInt ≤ w.toInt) : dutyOf v ≤ dutyOf w := by
  rw [UInt8.le_iff_toNat_le, toNat_dutyOf, toNat_dutyOf]
  omega

lemma suppress_le (deadzone : UInt8) {a b : UInt8} (le : a ≤ b) :
    suppress deadzone a ≤ suppress deadzone b := by
  unfold suppress
  by_cases small : deadzone < a
  · rw [if_pos small, if_pos (UInt8.lt_of_lt_of_le small le)]
    exact le
  · rw [if_neg small]
    exact UInt8.zero_le

/-- The duty for a number of motor units. -/
lemma duty_le (deadzone : UInt8) {v w : Int16} (le : v ≤ w) :
    suppress deadzone (dutyOf v.toInt32) ≤ suppress deadzone (dutyOf w.toInt32) := by
  apply suppress_le
  apply dutyOf_le
  rw [Int16.toInt_toInt32, Int16.toInt_toInt32]
  exact Int16.le_iff_toInt_le.1 le

namespace StickLines

variable {neutral x y : Int16} {travel : Travel} {l : Line}

lemma forward_of_through
    (h : Line.through neutral travel.high.toUInt16.toInt16 0 topMotorValue = .ok l) :
    (around neutral travel).forward = l := by
  rw [around, Line.throughOrIdle_eq h]

lemma backward_of_through
    (h : Line.through travel.low.toUInt16.toInt16 neutral topMotorValue 0 = .ok l) :
    (around neutral travel).backward = l := by
  rw [around, Line.throughOrIdle_eq h]

/-- Away from the resting position, the motor gets more forward. -/
lemma forward_le (low : neutral ≤ x) (le : x ≤ y) (high : y ≤ travel.high.toUInt16.toInt16) :
    (around neutral travel).forward.value x ≤ (around neutral travel).forward.value y := by
  unfold around Line.throughOrIdle
  dsimp only
  cases through : Line.through neutral travel.high.toUInt16.toInt16 0 topMotorValue with
  | ok line => exact Line.value_le_value through (by decide) low le high
  | error _ =>
    dsimp only
    rw [Line.value_idle, Line.value_idle]
    exact Int16.le_refl _

/-- Towards the resting position, the motor gets less backward. -/
lemma backward_le (low : travel.low.toUInt16.toInt16 ≤ x) (le : x ≤ y) (high : y ≤ neutral) :
    (around neutral travel).backward.value y ≤ (around neutral travel).backward.value x := by
  unfold around Line.throughOrIdle
  dsimp only
  cases through : Line.through travel.low.toUInt16.toInt16 neutral topMotorValue 0 with
  | ok line => exact Line.value_le_value_of_falling through (by decide) low le high
  | error _ =>
    dsimp only
    rw [Line.value_idle, Line.value_idle]
    exact Int16.le_refl _

end StickLines

namespace Calibration

variable {c : Calibration} {channel : Channel} {travel : Travel} {x y : Int16}

lemma tankCommand_of_lt (ahead : c.neutral.get channel < x) (deadzone : UInt8) :
    c.tankCommand channel x deadzone =
      ⟨.forward, suppress deadzone (dutyOf ((c.lines.get channel).forward.value x).toInt32)⟩ := by
  rw [tankCommand, if_pos ahead]

lemma tankCommand_of_not_lt (behind : ¬c.neutral.get channel < x) (deadzone : UInt8) :
    c.tankCommand channel x deadzone =
      ⟨.backward, suppress deadzone (dutyOf ((c.lines.get channel).backward.value x).toInt32)⟩ := by
  rw [tankCommand, if_neg behind]

/-- Within the travel of the stick the signed command does not step back. -/
lemma signed_tankCommand_le
    (lines : c.lines.get channel = .around (c.neutral.get channel) travel)
    (low : travel.low.toUInt16.toInt16 ≤ x) (le : x ≤ y) (high : y ≤ travel.high.toUInt16.toInt16)
    (deadzone : UInt8) :
    (c.tankCommand channel x deadzone).signed ≤ (c.tankCommand channel y deadzone).signed := by
  by_cases ahead : c.neutral.get channel < x
  · have ahead' : c.neutral.get channel < y := Int16.lt_of_lt_of_le ahead le
    have more := duty_le deadzone (StickLines.forward_le (Int16.le_of_lt ahead) le high)
    rw [tankCommand_of_lt ahead, tankCommand_of_lt ahead', lines, Command.signed_forward,
      Command.signed_forward]
    exact Int.ofNat_le.2 (UInt8.le_iff_toNat_le.1 more)
  rw [tankCommand_of_not_lt ahead]
  by_cases ahead' : c.neutral.get channel < y
  · -- the command changes its sign
    rw [tankCommand_of_lt ahead', Command.signed_backward, Command.signed_forward]
    omega
  · have less := duty_le deadzone (StickLines.backward_le low le (Int16.not_lt.1 ahead'))
    rw [tankCommand_of_not_lt ahead', lines, Command.signed_backward, Command.signed_backward]
    exact Int.neg_le_neg (Int.ofNat_le.2 (UInt8.le_iff_toNat_le.1 less))

/-- At the upper end of its travel a stick asks for all power. -/
lemma tankCommand_top (lines : c.lines.get channel = .around (c.neutral.get channel) travel)
    (ahead : c.neutral.get channel < travel.high.toUInt16.toInt16) {deadzone : UInt8}
    (small : deadzone < 255) :
    c.tankCommand channel travel.high.toUInt16.toInt16 deadzone = ⟨.forward, 255⟩ := by
  obtain ⟨line, through⟩ := Line.exists_through (Int16.ne_of_lt ahead) 0 topMotorValue
  have forward : (c.lines.get channel).forward = line := by
    rw [lines, StickLines.forward_of_through through]
  have full : dutyOf topMotorValue.toInt32 = 255 := by decide
  rw [tankCommand_of_lt ahead, forward, Line.value_of_through through, full, suppress, if_pos small]

end Calibration

/-- In tank mode a motor gets the command of its channel. -/
lemma Mixer.get_mix_of_tank {settings : Settings} (tank : settings.mode = .tank) (m : Mixer)
    (samples : Axes UInt16) (c : Channel) :
    (m.mix samples settings).get c.motor =
      m.inForce.tankCommand c (samples.get c).toInt16 settings.deadzone := by
  cases c <;> simp only [mix, tank] <;> rfl

end Mixing

end SpeedController
