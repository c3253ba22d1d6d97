import SpeedController.Mixing.Plane
import SpeedController.Power.Command
import SpeedController.Receiver.Channel

/-!
# Settings

What a user can adjust: how the sticks are mixed, how small a duty is ignored, how far the sticks
travel and the planes of the two motors.
-/

namespace SpeedController

open Mixing Power Receiver

/-- How two sticks become two motor commands: each stick drives the motor of its side, or both sticks
drive both motors. -/
inductive ControlMode where
  | tank
  | delta
  deriving DecidableEq, Repr

namespace ControlMode

/-- The stored code of a mode. -/
def code : ControlMode → UInt8
  | tank => 0
  | delta => 1

/-- The mode with a given code. -/
def ofCode? : UInt8 → Option ControlMode
  | 0 => some tank
  | 1 => some delta
  | _ => none

/-- The name of a mode. -/
def name : ControlMode → String
  | tank => "TANK"
  | delta => "DELTA"

@[simp] theorem ofCode?_code (m : ControlMode) : ofCode? m.code = some m := by cases m <;> rfl

/-- Only the code of a mode is read as that mode. -/
theorem eq_code_of_ofCode? {c : UInt8} {m : ControlMode} (h : ofCode? c = some m) : c = m.code := by
  unfold ofCode? at h
  split at h <;> cases h <;> rfl

end ControlMode

/-- The samples of a stick at its two stops. -/
structure Travel where
  low : UInt8
  high : UInt8
  deriving DecidableEq, Repr

/-- The travel of a stick that reaches both ends of the pulse range. -/
def Travel.full : Travel := ⟨0, 250⟩

/-- Everything that a user can adjust. -/
structure Settings where
  mode : ControlMode
  deadzone : UInt8
  travel : Axes Travel
  planes : Sides Plane
  deriving DecidableEq, Repr

namespace Settings

/-- The largest duty that new devices ignore. -/
def factoryDeadzone : UInt8 := 5

/-- The settings of a new device. -/
def factory : Settings where
  mode := .tank
  deadzone := factoryDeadzone
  travel := .both .full
  planes := .both .zero

end Settings

end SpeedController
