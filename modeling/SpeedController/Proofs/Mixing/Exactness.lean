import SpeedController.Proofs.Mixing.Lines

/-!
# Mixing without overflow

Calibrating and mixing once more, with a number in place of every word and a check that it fits:
`Calibration.take?` and `Mixer.mix?` have no answer if an operation overflows anywhere on the way.
The lines themselves never do. They are derived exactly from any ends (`Line.through?_eq`), and a line
that leads to no more than the motor units of a stop is evaluated exactly everywhere
(`Line.Gentle.value?_eq`). So all that is needed are samples that fit a short word and differences to
the resting positions that do (`Calibration.take?_eq`, `Mixer.mix?_eq`). What is not checked is what
wraps on purpose: the value of a line is cut to a short word, and that of a plane is taken as it comes.
-/

namespace SpeedController.Mixing

open Power Receiver

/-- A number as a word, if it fits. -/
def word? (n : Int) : Option Int32 :=
  if Int32.minValue.toInt ≤ n ∧ n ≤ Int32.maxValue.toInt then some (.ofInt n) else none

/-- A number as a short word, if it fits. -/
def shortWord? (n : Int) : Option Int16 :=
  if Int16.minValue.toInt ≤ n ∧ n ≤ Int16.maxValue.toInt then some (.ofInt n) else none

lemma word?_eq {n : Int} {w : Int32} (exact : w.toInt = n) : word? n = some w := by
  subst exact
  rw [word?, if_pos ⟨w.minValue_le_toInt, w.toInt_le⟩, Int32.ofInt_toInt]

lemma shortWord?_eq {n : Int} {w : Int16} (exact : w.toInt = n) : shortWord? n = some w := by
  subst exact
  rw [shortWord?, if_pos ⟨w.minValue_le_toInt, w.toInt_le⟩, Int16.ofInt_toInt]

namespace Line

variable {inLow inHigh outLow outHigh : Int16} {l : Line}

/-- The line between two points, with a check of every operation. -/
def through? (inLow inHigh outLow outHigh : Int16) : Option (Except MappingError Line) := do
  let width ← word? (inHigh.toInt - inLow.toInt)
  let run ← word? (width.toInt * 256)
  let height ← word? (outHigh.toInt - outLow.toInt)
  let rise ← word? (height.toInt * 256)
  if run = 0 then some (.error .emptyRange)
  else
    let slope ← word? (rise.toInt.tdiv run.toInt)
    let product ← word? (slope.toInt * inHigh.toInt)
    let intercept ← word? (outHigh.toInt - product.toInt)
    some (.ok ⟨slope, intercept⟩)

/-- The value at `x`, with a check of every operation but the last one, which cuts it on purpose. -/
def value? (l : Line) (x : Int16) : Option Int16 := do
  let product ← word? (l.slope.toInt * x.toInt)
  let sum ← word? (product.toInt + l.intercept.toInt)
  some sum.toInt16

/-- A line is derived without an overflow, whatever its ends. -/
lemma through?_eq (inLow inHigh outLow outHigh : Int16) :
    through? inLow inHigh outLow outHigh = some (through inLow inHigh outLow outHigh) := by
  have width := word?_eq (toInt_difference inHigh inLow)
  have height := word?_eq (toInt_difference outHigh outLow)
  have run : word? ((inHigh.toInt32 - inLow.toInt32).toInt * 256) = _ :=
    word?_eq ((toInt_scaled inHigh inLow).trans (by rw [toInt_difference]))
  have rise : word? ((outHigh.toInt32 - outLow.toInt32).toInt * 256) = _ :=
    word?_eq ((toInt_scaled outHigh outLow).trans (by rw [toInt_difference]))
  simp only [through?, through, width, height, run, rise, Option.bind_eq_bind, Option.bind_some]
  split
  · rfl
  · next steep =>
    have derived : through inLow inHigh outLow outHigh = .ok _ := if_neg steep
    have slope := slope_of_through derived
    have intercept := intercept_of_through derived
    rw [← toInt_product derived] at intercept
    rw [toInt_scaled, toInt_scaled, Int.mul_tdiv_mul_of_pos_left _ _ (by decide), word?_eq slope,
      Option.bind_some, word?_eq (toInt_product derived), Option.bind_some, word?_eq intercept,
      Option.bind_some]

/-- The line between two points or the idle one, with a check of every operation. -/
def throughOrIdle? (inLow inHigh outLow outHigh : Int16) : Option Line := do
  match ← through? inLow inHigh outLow outHigh with
  | .ok line => some line
  | .error _ => some idle

lemma throughOrIdle?_eq (inLow inHigh outLow outHigh : Int16) :
    throughOrIdle? inLow inHigh outLow outHigh =
      some (throughOrIdle inLow inHigh outLow outHigh) := by
  rw [throughOrIdle?, through?_eq, throughOrIdle]
  cases through inLow inHigh outLow outHigh <;> rfl

/-- Neither the slope of a line nor its intercept can make it overflow. -/
structure Gentle (l : Line) : Prop where
  slope : l.slope.toInt.natAbs ≤ 8160
  intercept : l.intercept.toInt.natAbs ≤ 8160 + 8160 * 32768

lemma gentle_idle : idle.Gentle := ⟨by decide, by decide⟩

/-- A line that rises or falls by no more than the motor units of a stop, and ends within them. -/
lemma gentle_of_through (h : through inLow inHigh outLow outHigh = .ok l)
    (height : (outHigh.toInt - outLow.toInt).natAbs ≤ 8160) (ending : outHigh.toInt.natAbs ≤ 8160) :
    l.Gentle := by
  have slope : l.slope.toInt.natAbs ≤ 8160 := by
    rw [slope_of_through h]
    exact Nat.le_trans (Int.natAbs_tdiv_le_natAbs _ _) height
  have product := natAbs_mul_le slope inHigh
  refine ⟨slope, ?_⟩
  rw [intercept_of_through h]
  omega

lemma gentle_throughOrIdle (inLow inHigh : Int16)
    (height : (outHigh.toInt - outLow.toInt).natAbs ≤ 8160) (ending : outHigh.toInt.natAbs ≤ 8160) :
    (throughOrIdle inLow inHigh outLow outHigh).Gentle := by
  unfold throughOrIdle
  cases through : through inLow inHigh outLow outHigh with
  | ok line => exact gentle_of_through through height ending
  | error _ => exact gentle_idle

lemma Gentle.value?_eq (gentle : l.Gentle) (x : Int16) : l.value? x = some (l.value x) := by
  have bounded := natAbs_mul_le gentle.slope x
  have intercept := gentle.intercept
  have product : (l.slope * x.toInt32).toInt = l.slope.toInt * x.toInt := by
    rw [Int32.toInt_mul, Int16.toInt_toInt32]
    exact Int.bmod_eq_of_le_mul_two (by omega) (by omega)
  have sum : (l.slope * x.toInt32 + l.intercept).toInt =
      (l.slope * x.toInt32).toInt + l.intercept.toInt := by
    rw [Int32.toInt_add, product]
    exact Int.bmod_eq_of_le_mul_two (by omega) (by omega)
  rw [value?, word?_eq product, Option.bind_eq_bind, Option.bind_some, word?_eq sum]
  rfl

/-- A line that is not gentle can overflow. -/
example : value? ⟨Int32.maxValue, 1⟩ 1 = none := by decide

end Line

/-- The lines of a stick, with a check of every operation. -/
def StickLines.around? (neutral : Int16) (travel : Travel) : Option StickLines := do
  let backward ← Line.throughOrIdle? travel.low.toUInt16.toInt16 neutral topMotorValue 0
  let forward ← Line.throughOrIdle? neutral travel.high.toUInt16.toInt16 0 topMotorValue
  some ⟨backward, forward⟩

lemma StickLines.around?_eq (neutral : Int16) (travel : Travel) :
    around? neutral travel = some (around neutral travel) := by
  rw [around?, Line.throughOrIdle?_eq, Line.throughOrIdle?_eq]
  rfl

lemma StickLines.gentle_around (neutral : Int16) (travel : Travel) :
    (around neutral travel).backward.Gentle ∧ (around neutral travel).forward.Gentle := by
  have zero : (0 : Int16).toInt = 0 := rfl
  have top : topMotorValue.toInt = 8160 := rfl
  unfold around
  dsimp only
  constructor
  · exact Line.gentle_throughOrIdle _ _ (by omega) (by omega)
  · exact Line.gentle_throughOrIdle _ _ (by omega) (by omega)

/-- Samples that are the same numbers as short words. -/
def Fit (samples : Axes UInt16) : Prop :=
  ∀ channel, (samples.get channel).toInt16.toInt = (samples.get channel).toNat

lemma Fit.shortWord?_eq {samples : Axes UInt16} (fit : Fit samples) :
    shortWord? samples.ch1.toNat = some samples.ch1.toInt16 ∧
      shortWord? samples.ch2.toNat = some samples.ch2.toInt16 :=
  ⟨Mixing.shortWord?_eq (fit .ch1), Mixing.shortWord?_eq (fit .ch2)⟩

namespace Calibration

/-- A calibration, with a check of every operation. -/
def take? (samples : Axes UInt16) (travel : Axes Travel) : Option Calibration := do
  let neutral₁ ← shortWord? samples.ch1.toNat
  let neutral₂ ← shortWord? samples.ch2.toNat
  let lines₁ ← StickLines.around? neutral₁ travel.ch1
  let lines₂ ← StickLines.around? neutral₂ travel.ch2
  some ⟨⟨neutral₁, neutral₂⟩, ⟨lines₁, lines₂⟩⟩

/-- Samples that fit a short word are taken without an overflow, whatever the travel of the sticks. -/
lemma take?_eq {samples : Axes UInt16} (fit : Fit samples) (travel : Axes Travel) :
    take? samples travel = some (take samples travel) := by
  obtain ⟨first, second⟩ := fit.shortWord?_eq
  simp only [take?, first, second, StickLines.around?_eq, Option.bind_eq_bind, Option.bind_some]
  rfl

/-- All lines of a calibration are gentle. -/
def Gentle (c : Calibration) : Prop :=
  ∀ channel, (c.lines.get channel).backward.Gentle ∧ (c.lines.get channel).forward.Gentle

lemma gentle_idle : idle.Gentle := by
  intro channel
  rw [show idle.lines.get channel = ⟨.idle, .idle⟩ from Axes.get_both _ channel]
  exact ⟨Line.gentle_idle, Line.gentle_idle⟩

lemma gentle_take (samples : Axes UInt16) (travel : Axes Travel) : (take samples travel).Gentle := by
  intro channel
  rw [lines_take]
  exact StickLines.gentle_around _ _

/-- A command in tank mode, with a check of every operation. -/
def tankCommand? (c : Calibration) (channel : Channel) (position : Int16) (deadzone : UInt8) :
    Option Command := do
  let lines := c.lines.get channel
  let (direction, line) :=
    if c.neutral.get channel < position then (Direction.forward, lines.forward)
    else (Direction.backward, lines.backward)
  let units ← line.value? position
  some ⟨direction, suppress deadzone (dutyOf units.toInt32)⟩

lemma Gentle.tankCommand?_eq {c : Calibration} (gentle : c.Gentle) (channel : Channel)
    (position : Int16) (deadzone : UInt8) :
    c.tankCommand? channel position deadzone = some (c.tankCommand channel position deadzone) := by
  obtain ⟨backward, forward⟩ := gentle channel
  unfold tankCommand? tankCommand
  dsimp only
  by_cases ahead : c.neutral.get channel < position
  · rw [if_pos ahead]
    dsimp only
    rw [forward.value?_eq]
    rfl
  · rw [if_neg ahead]
    dsimp only
    rw [backward.value?_eq]
    rfl

end Calibration

namespace Mixer

/-- Take samples as the resting positions, with a check of every operation. -/
def calibrate? (samples : Axes UInt16) (settings : Settings) : Option Mixer := do
  let c ← Calibration.take? samples settings.travel
  some ⟨some c⟩

/-- The commands for two stick samples, with a check of every operation. -/
def mix? (m : Mixer) (samples : Axes UInt16) (settings : Settings) : Option (Sides Command) := do
  let c := m.inForce
  let position₁ ← shortWord? samples.ch1.toNat
  let position₂ ← shortWord? samples.ch2.toNat
  match settings.mode with
  | .tank =>
    let left ← c.tankCommand? .ch1 position₁ settings.deadzone
    let right ← c.tankCommand? .ch2 position₂ settings.deadzone
    some ⟨left, right⟩
  | .delta =>
    let deflection₁ ← shortWord? (position₁.toInt - c.neutral.ch1.toInt)
    let deflection₂ ← shortWord? (position₂.toInt - c.neutral.ch2.toInt)
    some (settings.planes.map (deltaCommand · ⟨deflection₁, deflection₂⟩ settings.deadzone))

lemma calibrate?_eq {samples : Axes UInt16} (fit : Fit samples) (settings : Settings) :
    calibrate? samples settings = some (calibrate samples settings) := by
  rw [calibrate?, Calibration.take?_eq fit]
  rfl

/-- Mixing does not overflow if the samples fit a short word, and so do their differences to the
resting positions. -/
lemma mix?_eq {m : Mixer} {samples : Axes UInt16} (gentle : m.inForce.Gentle) (fit : Fit samples)
    (near : ∀ channel,
      ((samples.get channel).toInt16 - m.inForce.neutral.get channel).toInt =
        (samples.get channel).toInt16.toInt - (m.inForce.neutral.get channel).toInt)
    (settings : Settings) : m.mix? samples settings = some (m.mix samples settings) := by
  obtain ⟨first, second⟩ := fit.shortWord?_eq
  unfold mix? mix
  cases settings.mode with
  | tank =>
    simp only [first, second, gentle.tankCommand?_eq, Option.bind_eq_bind, Option.bind_some]
    rfl
  | delta =>
    have first' := shortWord?_eq (near .ch1)
    have second' := shortWord?_eq (near .ch2)
    simp only [Axes.get] at first' second'
    simp only [first, second, first', second', Option.bind_eq_bind, Option.bind_some]
    rfl

end Mixer

end SpeedController.Mixing
