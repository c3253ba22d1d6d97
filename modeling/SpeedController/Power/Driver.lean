import SpeedController.Power.Latch

/-!
# Motor driver

A motor driver is a latch over the hardware that carries out its actions. The hardware is any
`PowerStage`; `PinStage` is one of two bridges and a timer with one event per motor.
-/

namespace SpeedController.Power

/-- Hardware with two bridges and a timer that holds the tick of the event of each motor. -/
class PowerStage (σ : Type) where
  /-- Carry out an action. -/
  perform : σ → Action → σ
  /-- The tick of the event of each motor. -/
  compares : σ → Sides (Option UInt8)

/-- A latch and the hardware under it. -/
structure MotorDriver (σ : Type) where
  latch : Latch
  stage : σ
  deriving DecidableEq, Repr

namespace MotorDriver

variable {σ : Type} [PowerStage σ]

/-- Carry out actions in order. -/
def performAll (stage : σ) (actions : List Action) : σ := actions.foldl PowerStage.perform stage

/-- Take charge of the hardware: everything is released and disabled. -/
def start (stage : σ) : MotorDriver σ := ⟨.idle, performAll stage Latch.startActions⟩

/-- Follow an order. -/
def obey (d : MotorDriver σ) (o : Order) : MotorDriver σ :=
  ⟨d.latch.next o, performAll d.stage (d.latch.actions o)⟩

/-- Follow orders in turn. -/
def obeyAll (d : MotorDriver σ) (os : List Order) : MotorDriver σ := os.foldl obey d

/-- Latch a command for each motor. -/
def setBoth (d : MotorDriver σ) (commands : Sides Command) : MotorDriver σ :=
  (d.obey (.set .left commands.left)).obey (.set .right commands.right)

/-- The motors that have an event in a period, in the order of their ticks; the left one comes first
on a tie. -/
def scheduled : Sides (Option UInt8) → List Motor
  | ⟨none, none⟩ => []
  | ⟨some _, none⟩ => [.left]
  | ⟨none, some _⟩ => [.right]
  | ⟨some l, some r⟩ => if r < l then [.right, .left] else [.left, .right]

/-- The orders that the timer gives over one period. -/
def periodOrders (d : MotorDriver σ) : List Order :=
  .overflow :: (scheduled (PowerStage.compares d.stage)).map .compare

/-- Let one period of the timer pass. -/
def period (d : MotorDriver σ) : MotorDriver σ := d.obeyAll d.periodOrders

end MotorDriver

/-- Two bridges of pins and the events of the timer. -/
structure PinStage where
  bridges : Sides Bridge
  compares : Sides (Option UInt8)
  deriving DecidableEq, Repr

namespace PinStage

/-- Carry out an action. -/
def perform (s : PinStage) : Action → PinStage
  | .leg motor write =>
    { s with bridges := s.bridges.set motor ((s.bridges.get motor).write write) }
  | .compare motor tick => { s with compares := s.compares.set motor tick }

instance : PowerStage PinStage := ⟨perform, PinStage.compares⟩

/-- Whether an action would take effect: only a write to a stuck pin does not. -/
def accepts (s : PinStage) : Action → Bool
  | .leg motor write => !((s.bridges.get motor).leg write.leg).stuck
  | .compare _ _ => true

/-- Let a pin stick or come free. -/
def setStuck (s : PinStage) (motor : Motor) (leg : Direction) (stuck : Bool) : PinStage :=
  { s with bridges := s.bridges.set motor ((s.bridges.get motor).setStuck leg stuck) }

/-- Four working pins that are low, and a timer with an event of either motor at tick 0. -/
def powerUp : PinStage := ⟨.both ⟨⟨false, false⟩, ⟨false, false⟩⟩, .both (some 0)⟩

end PinStage

end SpeedController.Power
