import SpeedController.Mixing.Line

/-!
# Planes

Both sticks together are mapped onto motor units by a plane over the stick axes. A plane is derived
from three points on it by their cross product, in 64-bit words.
-/

namespace SpeedController.Mixing

/-- The map `(x, y) ↦ r - s * x - t * y`. -/
structure Plane where
  r : Int32
  s : Int32
  t : Int32
  deriving DecidableEq, Repr

/-- A stick position and the motor value wanted there. -/
structure Point where
  ch1 : Int32
  ch2 : Int32
  motor : Int32
  deriving DecidableEq, Repr

/-- A direction in the space of stick positions and motor values. -/
structure Arrow where
  ch1 : Int64
  ch2 : Int64
  motor : Int64
  deriving DecidableEq, Repr

namespace Arrow

/-- The way from the origin to a point. -/
def ofPoint (p : Point) : Arrow := ⟨p.ch1.toInt64, p.ch2.toInt64, p.motor.toInt64⟩

/-- The difference of two arrows. -/
def sub (a b : Arrow) : Arrow := ⟨a.ch1 - b.ch1, a.ch2 - b.ch2, a.motor - b.motor⟩

/-- The cross product, at right angles to both arrows. -/
def cross (a b : Arrow) : Arrow where
  ch1 := a.ch2 * b.motor - a.motor * b.ch2
  ch2 := a.motor * b.ch1 - a.ch1 * b.motor
  motor := a.ch1 * b.ch2 - a.ch2 * b.ch1

/-- The scalar product. -/
def dot (a b : Arrow) : Int64 := a.ch1 * b.ch1 + a.ch2 * b.ch2 + a.motor * b.motor

end Arrow

/-- The quotient toward zero as a 32-bit word. It is refused when it does not fit, and it is an error
of its own when it does not even fit 64 bits. -/
def narrowQuotient (a b : Int64) : Except MappingError Int32 :=
  if a = Int64.minValue ∧ b = -1 then .error .quotientOverflow
  else
    let q := a / b
    if q < Int32.minValue.toInt64 ∨ Int32.maxValue.toInt64 < q then .error .noPlane
    else .ok q.toInt32

namespace Plane

/-- The plane that is 0 everywhere. -/
def zero : Plane := ⟨0, 0, 0⟩

/-- The plane through three points. There is none if their projections on the stick axes lie on a
line, or if a coefficient does not fit. -/
def throughPoints (p q u : Point) : Except MappingError Plane := do
  let origin := Arrow.ofPoint p
  let normal := (origin.sub (.ofPoint q)).cross (origin.sub (.ofPoint u))
  if normal.motor = 0 then throw .noPlane
  let r ← narrowQuotient (normal.dot origin) normal.motor
  let s ← narrowQuotient normal.ch1 normal.motor
  let t ← narrowQuotient normal.ch2 normal.motor
  return ⟨r, s, t⟩

/-- The value at a stick position, computed in 32 bits. -/
def value (p : Plane) (ch1 ch2 : Int16) : Int32 := p.r - p.s * ch1.toInt32 - p.t * ch2.toInt32

/-- The value at a stick position over the integers. -/
def exact (p : Plane) (ch1 ch2 : Int) : Int := p.r.toInt - p.s.toInt * ch1 - p.t.toInt * ch2

end Plane

end SpeedController.Mixing
