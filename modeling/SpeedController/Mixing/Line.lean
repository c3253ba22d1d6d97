/-!
# Lines

One half of the travel of a stick is mapped onto motor units by a straight line with integer slope
and intercept. The line is exact at the end of its range and rounds its slope toward zero.
-/

namespace SpeedController.Mixing

/-- Why a map cannot be derived from calibration data. -/
inductive MappingError where
  | emptyRange
  | noPlane
  | quotientOverflow
  deriving DecidableEq, Repr

/-- The text of an error. -/
def MappingError.message : MappingError → String
  | emptyRange => "empty input range"
  | noPlane => "points do not define a plane (n.z == 0)"
  | quotientOverflow => "attempt to divide with overflow"

/-- The map `x ↦ slope * x + intercept`. -/
structure Line where
  slope : Int32
  intercept : Int32
  deriving DecidableEq, Repr

namespace Line

/-- The line that is 0 everywhere. -/
def idle : Line := ⟨0, 0⟩

/-- The line that takes `inLow` near `outLow` and `inHigh` to `outHigh`. Both differences are scaled
by 256 before they are divided. -/
def through (inLow inHigh outLow outHigh : Int16) : Except MappingError Line :=
  let run := (inHigh.toInt32 - inLow.toInt32) <<< 8
  let rise := (outHigh.toInt32 - outLow.toInt32) <<< 8
  if run = 0 then .error .emptyRange
  else
    let slope := rise / run
    .ok ⟨slope, outHigh.toInt32 - slope * inHigh.toInt32⟩

/-- The line between two points, or the idle one if they lie over the same input. -/
def throughOrIdle (inLow inHigh outLow outHigh : Int16) : Line :=
  match through inLow inHigh outLow outHigh with
  | .ok line => line
  | .error _ => idle

/-- The value at `x`, computed in 32 bits and cut to 16. -/
def value (l : Line) (x : Int16) : Int16 := (l.slope * x.toInt32 + l.intercept).toInt16

/-- The value at `x` over the integers. -/
def exact (l : Line) (x : Int) : Int := l.slope.toInt * x + l.intercept.toInt

end Line

end SpeedController.Mixing
