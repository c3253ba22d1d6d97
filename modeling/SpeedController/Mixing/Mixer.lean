import SpeedController.Receiver.Pulse
import SpeedController.Settings.Basic

/-!
# Mixing

Two stick samples become a command for each motor. In tank mode a stick drives the motor of its
side, through one line above its resting position and another one at or below it. In delta mode each
motor has a plane, evaluated at the deflection of both sticks. The resting positions and the lines
are a calibration, taken while the sticks are left alone.
-/

namespace SpeedController.Mixing

open Power Receiver

/-- The motor units of a stick at its stop. -/
def topMotorValue : Int16 := 8160

/-- Motor units are `2 ^ outputShift` times as fine as duties. -/
def outputShift : Nat := 5

/-- The duty of a number of motor units, kept between 0 and 255. -/
def dutyOf (value : Int32) : UInt8 := .ofNat (min (value.toInt >>> outputShift).toNat 255)

/-- Ignore a duty that does not exceed the deadzone. -/
def suppress (deadzone duty : UInt8) : UInt8 := if deadzone < duty then duty else 0

/-- The lines of a stick on the two sides of its resting position. -/
structure StickLines where
  backward : Line
  forward : Line
  deriving DecidableEq, Repr

/-- The lines of a stick that rests at `neutral`. A half without travel is idle. -/
def StickLines.around (neutral : Int16) (travel : Travel) : StickLines where
  backward := .throughOrIdle travel.low.toUInt16.toInt16 neutral topMotorValue 0
  forward := .throughOrIdle neutral travel.high.toUInt16.toInt16 0 topMotorValue

/-- The resting positions of both sticks and the lines around them. -/
structure Calibration where
  neutral : Axes Int16
  lines : Axes StickLines
  deriving DecidableEq, Repr

namespace Calibration

/-- Centred sticks that drive nothing in tank mode. -/
def idle : Calibration := ⟨.both stickCentre.toInt16, .both ⟨.idle, .idle⟩⟩

/-- Take samples as the resting positions. -/
def take (samples : Axes UInt16) (travel : Axes Travel) : Calibration where
  neutral := samples.map UInt16.toInt16
  lines := ⟨.around samples.ch1.toInt16 travel.ch1, .around samples.ch2.toInt16 travel.ch2⟩

/-- The command of the motor on the side of a stick, in tank mode. -/
def tankCommand (c : Calibration) (channel : Channel) (position : Int16) (deadzone : UInt8) :
    Command :=
  let lines := c.lines.get channel
  let (direction, line) :=
    if c.neutral.get channel < position then (Direction.forward, lines.forward)
    else (Direction.backward, lines.backward)
  ⟨direction, suppress deadzone (dutyOf (line.value position).toInt32)⟩

end Calibration

/-- The size of a word, or the largest word if the size does not fit. -/
def magnitude (value : Int32) : Int32 :=
  if value = Int32.minValue then Int32.maxValue else if value < 0 then -value else value

/-- The command of a motor with a plane, in delta mode. -/
def deltaCommand (plane : Plane) (deflection : Axes Int16) (deadzone : UInt8) : Command :=
  let value := plane.value deflection.ch1 deflection.ch2
  ⟨if value < 0 then .backward else .forward, suppress deadzone (dutyOf (magnitude value))⟩

/-- The mixing state: a calibration, once one has been taken. -/
structure Mixer where
  calibration : Option Calibration
  deriving DecidableEq, Repr

namespace Mixer

/-- No calibration yet. -/
def uncalibrated : Mixer := ⟨none⟩

/-- The calibration that mixing uses. -/
def inForce (m : Mixer) : Calibration := m.calibration.getD .idle

/-- Take samples as the resting positions. -/
def calibrate (samples : Axes UInt16) (settings : Settings) : Mixer :=
  ⟨some (.take samples settings.travel)⟩

/-- The commands for two stick samples. -/
def mix (m : Mixer) (samples : Axes UInt16) (settings : Settings) : Sides Command :=
  let c := m.inForce
  let position := samples.map UInt16.toInt16
  match settings.mode with
  | .tank =>
    ⟨c.tankCommand .ch1 position.ch1 settings.deadzone,
      c.tankCommand .ch2 position.ch2 settings.deadzone⟩
  | .delta =>
    let deflection : Axes Int16 :=
      ⟨position.ch1 - c.neutral.ch1, position.ch2 - c.neutral.ch2⟩
    settings.planes.map (deltaCommand · deflection settings.deadzone)

end Mixer

end SpeedController.Mixing
