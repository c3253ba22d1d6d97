import SpeedController.Proofs.Power.Interlock

/-!
# One period

What the lines of the motors show after a period of the timer. The start of the period brings all
lines down, and an event raises the commanded leg of its own motor only (`line_events`), so neither
the lines before nor the order of the events make a difference. That the timer has an event for just
the motors with a duty is `Sound.scheduled`. The main statement is `period_realises`.
-/

namespace SpeedController.Power

/-- Values that agree on either side are the same. -/
lemma Sides.eq_of_get {α : Type} {x y : Sides α} (same : ∀ m, x.get m = y.get m) : x = y := by
  obtain ⟨l, r⟩ := x
  obtain ⟨l', r'⟩ := y
  have left : l = l' := same .left
  have right : r = r' := same .right
  rw [left, right]

/-- Pins with the same level that are stuck alike are the same. -/
lemma Pin.eq_of_high {p p' : Pin} (high : p.high = p'.high) (stuck : p.stuck = p'.stuck) :
    p = p' := by
  obtain ⟨h, f⟩ := p
  obtain ⟨h', f'⟩ := p'
  cases high
  cases stuck
  rfl

/-- Bridges with the same pins are the same. -/
lemma Bridge.eq_of_leg {b b' : Bridge} (same : ∀ leg, b.leg leg = b'.leg leg) : b = b' := by
  obtain ⟨f, r⟩ := b
  obtain ⟨f', r'⟩ := b'
  have forward : f = f' := same .forward
  have backward : r = r' := same .backward
  rw [forward, backward]

/-- Free pins with the same levels over the same timer are the same. -/
lemma PinStage.eq_of_line {s s' : PinStage} (free : s.Free) (free' : s'.Free)
    (lines : ∀ m leg, s.line m leg = s'.line m leg) (compares : s.compares = s'.compares) :
    s = s' := by
  have bridges : s.bridges = s'.bridges := by
    apply Sides.eq_of_get
    intro m
    apply Bridge.eq_of_leg
    intro leg
    exact Pin.eq_of_high (lines m leg) ((free m leg).trans (free' m leg).symm)
  obtain ⟨b, c⟩ := s
  obtain ⟨b', c'⟩ := s'
  cases bridges
  cases compares
  rfl

namespace MotorDriver
open PinStage

variable {d : MotorDriver PinStage}

/-- The orders of a period in which the motors have their events in a given order. -/
def inPeriod (events : List Motor) : List Order := .overflow :: events.map .compare

/-- A motor is scheduled just if the timer has an event for it. -/
lemma mem_scheduled {compares : Sides (Option UInt8)} {m : Motor} :
    m ∈ scheduled compares ↔ compares.get m ≠ none := by
  obtain ⟨_ | l, _ | r⟩ := compares
  · cases m <;> simp [scheduled, Sides.get]
  · cases m <;> simp [scheduled, Sides.get]
  · cases m <;> simp [scheduled, Sides.get]
  · cases m <;> by_cases first : r < l <;> simp [scheduled, Sides.get, first]

lemma obeyAll_cons (d : MotorDriver PinStage) (o : Order) (os : List Order) :
    d.obeyAll (o :: os) = (d.obey o).obeyAll os := rfl

lemma free_obeyAll (free : d.stage.Free) (os : List Order) : (d.obeyAll os).stage.Free := by
  induction os generalizing d with
  | nil => exact free
  | cons o os ih => exact ih (free_performAll free _)

/-- Events change no command and no setting of the timer. -/
lemma kept_events (d : MotorDriver PinStage) (events : List Motor) :
    (d.obeyAll (events.map .compare)).latch = d.latch ∧
      (d.obeyAll (events.map .compare)).stage.compares = d.stage.compares := by
  induction events generalizing d with
  | nil => exact ⟨rfl, rfl⟩
  | cons m events ih =>
    obtain ⟨latch, compares⟩ := ih (d.obey (.compare m))
    exact ⟨latch, compares.trans (compares_obey_compare d m)⟩

/-- Among events in any order a motor is driven as commanded if it has one of them. -/
lemma line_events (free : d.stage.Free) (events : List Motor) (m : Motor) (leg : Direction) :
    (d.obeyAll (events.map .compare)).stage.line m leg =
      if m ∈ events ∧ d.latch.enabled = true ∧ (d.latch.commands.get m).duty ≠ 0 then
        decide (leg = (d.latch.commands.get m).direction)
      else d.stage.line m leg := by
  induction events generalizing d with
  | nil => simp [obeyAll]
  | cons m' events ih =>
    rw [List.map_cons, obeyAll_cons, ih (free_performAll free _), line_obey_compare free]
    have latch : (d.obey (.compare m')).latch = d.latch := rfl
    rw [latch]
    by_cases own : m = m'
    · subst own
      by_cases driven : d.latch.enabled = true ∧ (d.latch.commands.get m).duty ≠ 0
      · simp [driven]
      · simp [driven]
    · simp [own]

/-- The lines after a period show the latch, whatever they showed before. -/
lemma line_inPeriod (free : d.stage.Free) (events : List Motor) (m : Motor) (leg : Direction) :
    (d.obeyAll (inPeriod events)).stage.line m leg = true ↔
      m ∈ events ∧ d.latch.enabled = true ∧ (d.latch.commands.get m).duty ≠ 0 ∧
        leg = (d.latch.commands.get m).direction := by
  have latch : (d.obey .overflow).latch = d.latch := rfl
  rw [inPeriod, obeyAll_cons, line_events (free_performAll free _), line_obey_overflow free, latch]
  split
  · next driven => simp [driven]
  · next idle =>
    constructor
    · exact fun high => absurd high Bool.false_ne_true
    · rintro ⟨event, enabled, duty, -⟩
      exact absurd ⟨event, enabled, duty⟩ idle

/-- A period changes no command and no setting of the timer. -/
lemma kept_inPeriod (d : MotorDriver PinStage) (events : List Motor) :
    (d.obeyAll (inPeriod events)).latch = d.latch ∧
      (d.obeyAll (inPeriod events)).stage.compares = d.stage.compares := by
  obtain ⟨latch, compares⟩ := kept_events (d.obey .overflow) events
  exact ⟨latch, compares.trans (compares_obey_overflow d)⟩

/-- Periods with the same events leave the same behind, in whatever order the events come. -/
lemma obeyAll_inPeriod_congr (free : d.stage.Free) {events events' : List Motor}
    (same : ∀ m, m ∈ events ↔ m ∈ events') :
    d.obeyAll (inPeriod events) = d.obeyAll (inPeriod events') := by
  obtain ⟨latch, compares⟩ := kept_inPeriod d events
  obtain ⟨latch', compares'⟩ := kept_inPeriod d events'
  have stage : (d.obeyAll (inPeriod events)).stage = (d.obeyAll (inPeriod events')).stage := by
    apply eq_of_line (free_obeyAll free _) (free_obeyAll free _)
    · intro m leg
      rw [Bool.eq_iff_iff, line_inPeriod free, line_inPeriod free, same]
    · exact compares.trans compares'.symm
  calc d.obeyAll (inPeriod events)
    _ = ⟨(d.obeyAll (inPeriod events)).latch, (d.obeyAll (inPeriod events)).stage⟩ := rfl
    _ = ⟨(d.obeyAll (inPeriod events')).latch, (d.obeyAll (inPeriod events')).stage⟩ := by
      rw [latch, latch', stage]
    _ = d.obeyAll (inPeriod events') := rfl

/-- From every state that orders lead to over working pins, one period shows what is latched: the
commanded leg of a motor is high if the outputs are enabled and its duty is not 0, and no other leg
is. It does so whatever the lines were like before and in whatever order the motors have their
events, be it that of the timer, and leaves the latch and the timer as they were. -/
theorem period_realises {stage : PinStage} (free : stage.Free) (os : List Order) :
    let d := (start stage).obeyAll os
    d.stage.Free ∧
    ∀ (s : PinStage) (events : List Motor), s.Free → s.compares = d.stage.compares →
      (∀ m, m ∈ events ↔ d.stage.compares.get m ≠ none) →
      let d' := obeyAll ⟨d.latch, s⟩ (inPeriod events)
      (∀ m leg, d'.stage.line m leg = true ↔
        d.latch.enabled = true ∧ (d.latch.commands.get m).duty ≠ 0 ∧
          leg = (d.latch.commands.get m).direction) ∧
      d'.latch = d.latch ∧ d'.stage.compares = d.stage.compares ∧
      period ⟨d.latch, s⟩ = d' := by
  intro d
  have sound : d.Sound := (Sound.start free).obeyAll os
  refine ⟨sound.free, ?_⟩
  intro s events working compares each d'
  obtain ⟨latch, timer⟩ := kept_inPeriod ⟨d.latch, s⟩ events
  refine ⟨?_, latch, timer.trans compares, ?_⟩
  · intro m leg
    -- the motors with an event are those with a duty
    have event : m ∈ events ↔ (d.latch.commands.get m).duty ≠ 0 := by
      rw [each, sound.scheduled, ne_eq, compareFor_eq_none_iff]
    rw [line_inPeriod working, event]
    constructor
    · rintro ⟨duty, enabled, -, commanded⟩
      exact ⟨enabled, duty, commanded⟩
    · rintro ⟨enabled, duty, commanded⟩
      exact ⟨duty, enabled, duty, commanded⟩
  · apply obeyAll_inPeriod_congr working
    intro m
    rw [each, ← compares]
    exact mem_scheduled

/-- The motors were given commands before they were enabled, and the left one was reversed in the
middle of a period; in addition all four lines are high. After one period only the backward legs
are, whichever motor has its event first. -/
theorem period_realises_reversal :
    let os : List Order := [.set .right ⟨.backward, 50⟩, .enable, .set .left ⟨.forward, 200⟩,
      .compare .left, .set .left ⟨.backward, 120⟩]
    let d := (start powerUp).obeyAll os
    let s : PinStage := ⟨.both ⟨⟨true, false⟩, ⟨true, false⟩⟩, d.stage.compares⟩
    (obeyAll ⟨d.latch, s⟩ (inPeriod [.left, .right])).stage.line .left .backward = true ∧
      (obeyAll ⟨d.latch, s⟩ (inPeriod [.left, .right])).stage.line .left .forward = false ∧
      period ⟨d.latch, s⟩ = obeyAll ⟨d.latch, s⟩ (inPeriod [.left, .right]) ∧
      period ⟨d.latch, s⟩ = obeyAll ⟨d.latch, s⟩ (inPeriod [.right, .left]) := by
  intro os d s
  have free : powerUp.Free := by
    intro m leg
    cases m <;> cases leg <;> rfl
  have working : s.Free := by
    intro m leg
    cases m <;> cases leg <;> rfl
  have each (m : Motor) : m ∈ [Motor.left, .right] ↔ d.stage.compares.get m ≠ none := by
    cases m <;> decide
  have each' (m : Motor) : m ∈ [Motor.right, .left] ↔ d.stage.compares.get m ≠ none := by
    cases m <;> decide
  obtain ⟨-, shows⟩ := period_realises free os
  obtain ⟨lines, -, -, leftFirst⟩ := shows s _ working rfl each
  obtain ⟨-, -, -, rightFirst⟩ := shows s _ working rfl each'
  refine ⟨(lines .left .backward).2 (by decide), ?_, leftFirst, rightFirst⟩
  rw [Bool.eq_false_iff]
  intro high
  exact absurd ((lines .left .forward).1 high).2.2 (by decide)

end MotorDriver

end SpeedController.Power
