import SpeedController.Settings.Basic

/-!
# Status

What the interrupt handlers, the control loop and the supervisor tell each other: the phase of
operation, whether the signal is good, whether a calibration is due, and the live settings.
-/

namespace SpeedController

/-- The phases of operation. -/
inductive Phase where
  | start
  | active
  | failsafe
  | config
  | fault
  deriving DecidableEq, Repr

namespace Phase

/-- The code of a phase. -/
def code : Phase → UInt8
  | start => 0
  | active => 1
  | failsafe => 2
  | config => 3
  | fault => 4

/-- The phase with a given code. Every code that no other phase has means a fault. -/
def ofCode : UInt8 → Phase
  | 0 => start
  | 1 => active
  | 2 => failsafe
  | 3 => config
  | _ => fault

/-- The name of a phase. -/
def name : Phase → String
  | start => "INIT"
  | active => "ACTIVE"
  | failsafe => "FAILSAFE"
  | config => "CONFIG"
  | fault => "ERROR"

@[simp] theorem ofCode_code (p : Phase) : ofCode p.code = p := by cases p <;> rfl

end Phase

/-- The shared flags and settings. The phase is kept as a byte, which may hold any value. -/
structure Status where
  phaseCode : UInt8
  signalGood : Bool
  calibrationDue : Bool
  settings : Settings
  deriving DecidableEq, Repr

namespace Status

/-- The status at power-up. -/
def boot (settings : Settings) : Status := ⟨Phase.start.code, false, false, settings⟩

/-- The phase of operation. -/
def phase (s : Status) : Phase := .ofCode s.phaseCode

/-- Move to a phase. -/
def enter (s : Status) (p : Phase) : Status := { s with phaseCode := p.code }

/-- Take an outstanding calibration request, and tell whether there was one. -/
def takeCalibration (s : Status) : Bool × Status :=
  (s.calibrationDue, { s with calibrationDue := false })

@[simp] theorem phase_enter (s : Status) (p : Phase) : (s.enter p).phase = p := p.ofCode_code

end Status

end SpeedController
