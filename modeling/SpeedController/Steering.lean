import SpeedController.Mixing.Mixer
import SpeedController.Receiver.Window

/-!
# Steering

The stick samples of each channel run through a moving average, and the averages are mixed into a
command for each motor.
-/

namespace SpeedController

open Mixing Power Receiver

/-- The moving averages of both channels and the mixer behind them. -/
structure Steering where
  filters : Axes (Window filterLength)
  mixer : Mixer
  deriving DecidableEq

namespace Steering

instance : @NeZero Nat .ofOfNat0 filterLength := ⟨Nat.succ_ne_zero 3⟩

/-- Centred sticks and no calibration. -/
def start : Steering := ⟨.both (.filled stickCentre), .uncalibrated⟩

/-- The averages of both channels. -/
def samples (s : Steering) : Axes UInt16 := s.filters.map Window.mean

/-- Add a sample of one channel. -/
def push (s : Steering) (channel : Channel) (sample : UInt16) : Steering :=
  { s with filters := s.filters.set channel ((s.filters.get channel).push sample) }

/-- Take the averages as the resting positions. -/
def calibrate (s : Steering) (settings : Settings) : Steering :=
  { s with mixer := .calibrate s.samples settings }

/-- The commands for the averages. -/
def commands (s : Steering) (settings : Settings) : Sides Command := s.mixer.mix s.samples settings

end Steering

end SpeedController
