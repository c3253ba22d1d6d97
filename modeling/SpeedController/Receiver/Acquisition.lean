import SpeedController.Receiver.Edge
import SpeedController.Receiver.Pulse

/-!
# Signal acquisition

Both channels are timed, and the pulses completed on either are counted over a watchdog window.
When the window closes with too few of them the signal is lost, and pulses seen half are forgotten.
-/

namespace SpeedController.Receiver

/-- The fewest pulses of a window with a good signal. -/
def fewestGoodPulses : Nat := 20

/-- The largest number of pulses that the window counter shows. -/
def pulseCountLimit : Nat := 255

/-- The verdict on a watchdog window. -/
inductive Signal where
  | good
  | lost
  deriving DecidableEq, Repr

/-- The edge detectors of both channels, the pulses of the open window and whether the last closed
window was good. -/
structure Acquisition where
  detectors : Axes EdgeDetector
  count : Nat
  good : Bool
  deriving DecidableEq, Repr

namespace Acquisition

/-- Nothing seen yet. -/
def start : Acquisition := ⟨.both .waiting, 0, false⟩

/-- Take an edge of a channel at time `now`. The second edge of a pulse completes it. -/
def edge (a : Acquisition) (channel : Channel) (now : UInt16) : Option Pulse × Acquisition :=
  match (a.detectors.get channel).edge now with
  | (none, d) => (none, { a with detectors := a.detectors.set channel d })
  | (some width, d) =>
    (some ⟨channel, width, now⟩,
      { a with
        detectors := a.detectors.set channel d
        count := min (a.count + 1) pulseCountLimit })

/-- Close the watchdog window and judge it. -/
def closeWindow (a : Acquisition) : Signal × Acquisition :=
  if a.count < fewestGoodPulses then (.lost, start)
  else (.good, { a with count := 0, good := true })

end Acquisition

end SpeedController.Receiver
