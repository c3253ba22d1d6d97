import SpeedController.Receiver.Channel

/-!
# Pulse timing

An edge detector measures the time from a rising to the next falling edge of one channel. Times are
read off a 16-bit counter, so a width is right as long as the true width is below `65536` ticks.
-/

namespace SpeedController.Receiver

/-- The two kinds of level change of a line. -/
inductive Edge where
  | rising
  | falling
  deriving DecidableEq, Repr

/-- What an edge detector knows: nothing, or when the pulse that it times began. -/
inductive EdgeDetector where
  | waiting
  | timing (rise : UInt16)
  deriving DecidableEq, Repr

namespace EdgeDetector

/-- The kind of edge that comes next. -/
def armed : EdgeDetector → Edge
  | waiting => .rising
  | timing _ => .falling

/-- Take an edge at time `now`. The second edge of a pulse yields its width. -/
def edge (d : EdgeDetector) (now : UInt16) : Option UInt16 × EdgeDetector :=
  match d with
  | waiting => (none, timing now)
  | timing rise => (some (now - rise), waiting)

end EdgeDetector

end SpeedController.Receiver
