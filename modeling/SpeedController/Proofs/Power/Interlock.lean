import Mathlib.Data.List.Induction
import Mathlib.Tactic.Lemma
import SpeedController.Power.Driver

/-!
# Interlock

The motor driver over pins that obey every write. `Sound` says what holds between two orders: both
legs of a bridge are never high together, a high leg has an enabled command behind it, and the timer
has exactly the events that the commands ask for. It holds after construction (`Sound.start`) and
every order keeps it (`Sound.obey`).

Inside an order the legs are kept apart by the order of the writes. All orders but a compare event
only ever lower a leg (`apart_performAll_of_lowers`), and a compare event lowers the opposite leg
first (`Sound.apart_within`). The main statement is `legs_never_overlap`.
-/

namespace SpeedController.Power

/-- A write leaves a pin as free as it was. -/
lemma Pin.stuck_write (p : Pin) (high : Bool) : (p.write high).stuck = p.stuck := by
  unfold Pin.write
  split <;> rfl

/-- A free pin takes the level that is written. -/
lemma Pin.high_write {p : Pin} (free : p.stuck = false) (high : Bool) :
    (p.write high).high = high := by
  simp [Pin.write, free]

/-- A write reaches one leg. -/
lemma Bridge.leg_write (b : Bridge) (w : LegWrite) (leg : Direction) :
    (b.write w).leg leg = if leg = w.leg then (b.leg leg).write w.high else b.leg leg := by
  obtain ⟨written, high⟩ := w
  cases leg <;> cases written <;> rfl

/-- A duty of 0 has no event, and no other duty is without one. -/
lemma compareFor_eq_none_iff {duty : UInt8} : compareFor duty = none ↔ duty = 0 := by
  unfold compareFor
  split <;> simp [*]

/-- A motor is powered from its event to the end of the period, for as many ticks as its duty. -/
lemma add_duty_of_compareFor {duty tick : UInt8} (h : compareFor duty = some tick) :
    tick.toNat + duty.toNat = 255 := by
  unfold compareFor at h
  split at h
  · cases h
  · cases h
    have bound := duty.toNat_lt
    have top : (255 : UInt8).toNat = 255 := rfl
    rw [UInt8.toNat_sub_of_le _ _ (UInt8.le_iff_toNat_le.2 (by omega))]
    omega

namespace PinStage

/-- The level of a leg. -/
def line (s : PinStage) (m : Motor) (leg : Direction) : Bool := ((s.bridges.get m).leg leg).high

/-- Every pin obeys its writes. -/
def Free (s : PinStage) : Prop := ∀ m leg, ((s.bridges.get m).leg leg).stuck = false

/-- No bridge has both legs high. -/
def Apart (s : PinStage) : Prop := ∀ m, ¬(s.line m .forward = true ∧ s.line m .backward = true)

/-- A write to a leg sets the level of that leg only, unless its pin is stuck. -/
lemma leg_perform_leg (s : PinStage) (m m' : Motor) (w : LegWrite) (leg : Direction) :
    ((s.perform (.leg m w)).bridges.get m').leg leg =
      if m' = m ∧ leg = w.leg then ((s.bridges.get m').leg leg).write w.high
      else (s.bridges.get m').leg leg := by
  by_cases same : m' = m
  · subst same
    simp only [perform, Sides.get_set_self, Bridge.leg_write, true_and]
  · simp only [perform, Sides.get_set_of_ne _ _ same, same, false_and, if_false]

/-- An action keeps the pins free. -/
lemma Free.perform {s : PinStage} (free : s.Free) (a : Action) : (s.perform a).Free := by
  intro m leg
  cases a with
  | compare m' tick => exact free m leg
  | leg m' w =>
    rw [leg_perform_leg]
    split
    · rw [Pin.stuck_write, free m leg]
    · exact free m leg

/-- A write to a free pin sets that leg and no other. -/
lemma line_perform_leg {s : PinStage} (free : s.Free) (m m' : Motor) (w : LegWrite)
    (leg : Direction) :
    (s.perform (.leg m w)).line m' leg =
      if m' = m ∧ leg = w.leg then w.high else s.line m' leg := by
  rw [line, leg_perform_leg]
  split
  · rw [Pin.high_write (free m' leg)]
  · rfl

/-- A timer setting moves no leg. -/
lemma line_perform_compare (s : PinStage) (m m' : Motor) (tick : Option UInt8) (leg : Direction) :
    (s.perform (.compare m tick)).line m' leg = s.line m' leg := rfl

end PinStage

/-- The action raises no leg. -/
def Action.Lowers : Action → Prop
  | .leg _ w => w.high = false
  | .compare _ _ => True

namespace MotorDriver
open PinStage

@[simp] lemma performAll_nil (s : PinStage) : performAll s [] = s := rfl

@[simp] lemma performAll_cons (s : PinStage) (a : Action) (as : List Action) :
    performAll s (a :: as) = performAll (s.perform a) as := rfl

lemma performAll_append (s : PinStage) (as bs : List Action) :
    performAll s (as ++ bs) = performAll (performAll s as) bs := List.foldl_append

/-- Actions keep the pins free. -/
lemma free_performAll {s : PinStage} (free : s.Free) (as : List Action) : (performAll s as).Free := by
  induction as generalizing s with
  | nil => exact free
  | cons a as ih => exact ih (free.perform a)

/-- Actions that raise no leg leave a low leg low. -/
lemma line_performAll_of_lowers {s : PinStage} (free : s.Free) {as : List Action}
    (lowers : ∀ a ∈ as, a.Lowers) {m : Motor} {leg : Direction}
    (high : (performAll s as).line m leg = true) : s.line m leg = true := by
  induction as generalizing s with
  | nil => exact high
  | cons a as ih =>
    have high := ih (free.perform a) (fun b hb => lowers b (List.mem_cons_of_mem a hb)) high
    have low := lowers a List.mem_cons_self
    cases a with
    | compare m' tick => exact high
    | leg m' w =>
      rw [line_perform_leg free] at high
      split at high
      · rw [show w.high = false from low] at high
        cases high
      · exact high

/-- Actions that raise no leg keep the legs apart. -/
lemma apart_performAll_of_lowers {s : PinStage} (free : s.Free) (apart : s.Apart) {as : List Action}
    (lowers : ∀ a ∈ as, a.Lowers) : (performAll s as).Apart := by
  rintro m ⟨forward, backward⟩
  exact apart m ⟨line_performAll_of_lowers free lowers forward,
    line_performAll_of_lowers free lowers backward⟩

/-- A release brings both legs of its motor down. -/
lemma line_performAll_release {s : PinStage} (free : s.Free) (m m' : Motor) (leg : Direction) :
    (performAll s (Latch.releaseActions m)).line m' leg =
      if m' = m then false else s.line m' leg := by
  simp only [Latch.releaseActions, Bridge.releaseWrites, List.map_cons, List.map_nil,
    performAll_cons, performAll_nil]
  rw [line_perform_leg (free.perform _), line_perform_leg free]
  cases leg <;> by_cases same : m' = m <;> simp [same]

/-- A release of both motors brings all legs down. -/
lemma line_performAll_releaseBoth {s : PinStage} (free : s.Free) (m : Motor) (leg : Direction) :
    (performAll s Latch.releaseBothActions).line m leg = false := by
  rw [Latch.releaseBothActions, performAll_append,
    line_performAll_release (free_performAll free _), line_performAll_release free]
  cases m <;> rfl

/-- A drive raises one leg of its motor and brings the other one down. -/
lemma line_performAll_drive {s : PinStage} (free : s.Free) (m m' : Motor) (d leg : Direction) :
    (performAll s ((Bridge.driveWrites d).map (.leg m))).line m' leg =
      if m' = m then decide (leg = d) else s.line m' leg := by
  simp only [Bridge.driveWrites, List.map_cons, List.map_nil, performAll_cons, performAll_nil]
  rw [line_perform_leg (free.perform _), line_perform_leg free]
  cases leg <;> cases d <;> by_cases same : m' = m <;> simp [same, Direction.opposite]

/-- Writes to legs leave the timer alone. -/
lemma compares_performAll_legs (s : PinStage) (m : Motor) (ws : List LegWrite) :
    (performAll s (ws.map (.leg m))).compares = s.compares := by
  induction ws generalizing s with
  | nil => rfl
  | cons w ws ih => exact ih _

/-- A release of both motors leaves the timer alone. -/
lemma compares_performAll_releaseBoth (s : PinStage) :
    (performAll s Latch.releaseBothActions).compares = s.compares := by
  rw [Latch.releaseBothActions, performAll_append, Latch.releaseActions, Latch.releaseActions,
    compares_performAll_legs, compares_performAll_legs]

/-- A disabling order brings all legs down. -/
lemma line_obey_disable {d : MotorDriver PinStage} (free : d.stage.Free) (m : Motor)
    (leg : Direction) : (d.obey .disable).stage.line m leg = false :=
  line_performAll_releaseBoth ((free.perform _).perform _) m leg

/-- A disabling order takes all events off the timer. -/
lemma compares_obey_disable (d : MotorDriver PinStage) :
    (d.obey .disable).stage.compares = .both none :=
  compares_performAll_releaseBoth _

/-- The start of a period brings all legs down. -/
lemma line_obey_overflow {d : MotorDriver PinStage} (free : d.stage.Free) (m : Motor)
    (leg : Direction) : (d.obey .overflow).stage.line m leg = false :=
  line_performAll_releaseBoth free m leg

/-- The start of a period leaves the timer alone. -/
lemma compares_obey_overflow (d : MotorDriver PinStage) :
    (d.obey .overflow).stage.compares = d.stage.compares :=
  compares_performAll_releaseBoth _

/-- A new command brings the legs of its motor down if it has no duty. -/
lemma line_obey_set {d : MotorDriver PinStage} (free : d.stage.Free) (m m' : Motor) (c : Command)
    (leg : Direction) :
    (d.obey (.set m c)).stage.line m' leg =
      if m' = m ∧ c.duty = 0 then false else d.stage.line m' leg := by
  simp only [obey, Latch.actions, performAll_cons]
  by_cases zero : c.duty = 0
  · simp only [zero, if_true, and_true]
    rw [line_performAll_release (free.perform _), line_perform_compare]
  · simp only [zero, if_false, and_false, performAll_nil, line_perform_compare]

/-- A new command sets the event of its motor. -/
lemma compares_obey_set (d : MotorDriver PinStage) (m : Motor) (c : Command) :
    (d.obey (.set m c)).stage.compares = d.stage.compares.set m (compareFor c.duty) := by
  simp only [obey, Latch.actions, performAll_cons]
  split
  · exact compares_performAll_legs _ _ _
  · rfl

/-- A compare event drives its motor as commanded, if the outputs are enabled and there is a duty. -/
lemma line_obey_compare {d : MotorDriver PinStage} (free : d.stage.Free) (m m' : Motor)
    (leg : Direction) :
    (d.obey (.compare m)).stage.line m' leg =
      if m' = m ∧ d.latch.enabled = true ∧ (d.latch.commands.get m).duty ≠ 0 then
        decide (leg = (d.latch.commands.get m).direction)
      else d.stage.line m' leg := by
  simp only [obey, Latch.actions]
  split
  · rename_i driven
    simp only [line_performAll_drive free, driven, and_true, ne_eq, not_false_eq_true]
  · rename_i idle
    simp only [idle, and_false, if_false, performAll_nil]

/-- A compare event leaves the timer alone. -/
lemma compares_obey_compare (d : MotorDriver PinStage) (m : Motor) :
    (d.obey (.compare m)).stage.compares = d.stage.compares := by
  simp only [obey, Latch.actions]
  split
  · exact compares_performAll_legs _ _ _
  · rfl

/-- What holds of a driver between two orders. -/
structure Sound (d : MotorDriver PinStage) : Prop where
  free : d.stage.Free
  apart : d.stage.Apart
  driven : ∀ m leg, d.stage.line m leg = true →
    d.latch.enabled = true ∧ (d.latch.commands.get m).duty ≠ 0
  scheduled : ∀ m, d.stage.compares.get m = compareFor (d.latch.commands.get m).duty

/-- A disabling order makes a driver over free pins sound. -/
lemma sound_obey_disable {d : MotorDriver PinStage} (free : d.stage.Free) :
    (d.obey .disable).Sound where
  free := free_performAll free _
  apart m := by simp [line_obey_disable free]
  driven m leg high := by simp [line_obey_disable free] at high
  scheduled m := by
    rw [compares_obey_disable]
    cases m <;> rfl

/-- A driver that takes charge of free pins is sound, whatever the pins and the timer were like. -/
lemma Sound.start {s : PinStage} (free : s.Free) : (start s).Sound := by
  have built : MotorDriver.start s =
      MotorDriver.obey ⟨.idle, performAll s Latch.releaseBothActions⟩ .disable := by
    simp only [MotorDriver.start, Latch.startActions, performAll_append]
    rfl
  rw [built]
  exact sound_obey_disable (free_performAll free _)

/-- Only a compare event raises a leg. -/
lemma lowers_of_ne_compare {l : Latch} {o : Order} (ne : ∀ m, o ≠ .compare m) :
    ∀ a ∈ l.actions o, a.Lowers := by
  cases o with
  | set m c =>
    by_cases zero : c.duty = 0 <;>
      simp [Latch.actions, Latch.releaseActions, Bridge.releaseWrites, Action.Lowers, zero]
  | enable => simp [Latch.actions]
  | disable =>
    simp [Latch.actions, Latch.releaseBothActions, Latch.releaseActions, Bridge.releaseWrites,
      Action.Lowers]
  | overflow =>
    simp [Latch.actions, Latch.releaseBothActions, Latch.releaseActions, Bridge.releaseWrites,
      Action.Lowers]
  | compare m => exact absurd rfl (ne m)

/-- No part of a drive leaves both legs of a bridge high. -/
lemma apart_performAll_drive {s : PinStage} (free : s.Free) (apart : s.Apart) {m : Motor}
    {d : Direction} {done : List Action} (part : done <+: (Bridge.driveWrites d).map (.leg m)) :
    (performAll s done).Apart := by
  rcases List.prefix_concat_iff.1 (show done <+: [.leg m ⟨d.opposite, false⟩] ++ [.leg m ⟨d, true⟩]
    from part) with rfl | part
  · -- after the last write a single leg of `m` is high
    rintro m' ⟨forward, backward⟩
    have whole := line_performAll_drive free m m' d
    have forward := (whole .forward).symm.trans forward
    have backward := (whole .backward).symm.trans backward
    split at forward
    · simp only [*, if_true, decide_eq_true_eq] at forward backward
      cases forward.trans backward.symm
    · rename_i other
      simp only [other, if_false] at backward
      exact apart m' ⟨forward, backward⟩
  · -- the write before it lowers
    apply apart_performAll_of_lowers free apart
    intro a ha
    rw [List.mem_singleton.1 (part.subset ha)]
    rfl

/-- No part of an order leaves both legs of a bridge high. -/
lemma Sound.apart_within {d : MotorDriver PinStage} (sound : d.Sound) {o : Order}
    {done : List Action} (part : done <+: d.latch.actions o) : (performAll d.stage done).Apart := by
  by_cases event : ∃ m, o = .compare m
  · obtain ⟨m, rfl⟩ := event
    simp only [Latch.actions] at part
    split at part
    · exact apart_performAll_drive sound.free sound.apart part
    · rw [List.prefix_nil.1 part]
      exact sound.apart
  · apply apart_performAll_of_lowers sound.free sound.apart
    intro a ha
    exact lowers_of_ne_compare (fun m e => event ⟨m, e⟩) a (part.subset ha)

/-- Every order keeps a driver sound. -/
lemma Sound.obey {d : MotorDriver PinStage} (sound : d.Sound) (o : Order) : (d.obey o).Sound := by
  have free : (d.obey o).stage.Free := free_performAll sound.free _
  have apart : (d.obey o).stage.Apart := sound.apart_within (List.prefix_refl _)
  cases o with
  | enable =>
    exact ⟨free, apart, fun m leg high => ⟨rfl, (sound.driven m leg high).2⟩, sound.scheduled⟩
  | disable => exact sound_obey_disable sound.free
  | overflow =>
    refine ⟨free, apart, fun m leg high => ?_, fun m => ?_⟩
    · rw [line_obey_overflow sound.free] at high
      cases high
    · rw [compares_obey_overflow]
      exact sound.scheduled m
  | compare m =>
    refine ⟨free, apart, fun m' leg high => ?_, fun m' => ?_⟩
    · rw [line_obey_compare sound.free] at high
      split at high
      · rename_i driven
        rw [driven.1]
        exact driven.2
      · exact sound.driven m' leg high
    · rw [compares_obey_compare]
      exact sound.scheduled m'
  | set m c =>
    refine ⟨free, apart, fun m' leg high => ?_, fun m' => ?_⟩
    · rw [line_obey_set sound.free] at high
      split at high
      · cases high
      · rename_i kept
        obtain ⟨enabled, before⟩ := sound.driven m' leg high
        refine ⟨enabled, ?_⟩
        by_cases same : m' = m
        · subst same
          simpa [MotorDriver.obey, Latch.next] using kept
        · simpa [MotorDriver.obey, Latch.next, Sides.get_set_of_ne _ _ same] using before
    · rw [compares_obey_set]
      by_cases same : m' = m
      · subst same
        simp [MotorDriver.obey, Latch.next]
      · simp [MotorDriver.obey, Latch.next, Sides.get_set_of_ne _ _ same, sound.scheduled m']

/-- A sequence of orders keeps a driver sound. -/
lemma Sound.obeyAll {d : MotorDriver PinStage} (sound : d.Sound) (os : List Order) :
    (d.obeyAll os).Sound := by
  induction os generalizing d with
  | nil => exact sound
  | cons o os ih => exact ih (sound.obey o)

/-- A latched command is the brake, or the last one set for its motor, with no disabling since. -/
lemma command_origin {d : MotorDriver PinStage} {m : Motor}
    (fresh : d.latch.commands.get m = .brake) (os : List Order) :
    (d.obeyAll os).latch.commands.get m = .brake ∨
      ∃ before after, os = before ++ .set m ((d.obeyAll os).latch.commands.get m) :: after ∧
        .disable ∉ after ∧ ∀ c, .set m c ∉ after := by
  induction os using List.reverseRecOn with
  | nil => exact .inl fresh
  | append_singleton os o ih =>
    rw [show d.obeyAll (os ++ [o]) = (d.obeyAll os).obey o from List.foldl_append]
    by_cases gone : o = .disable
    · subst gone
      exact .inl (Sides.get_both _ m)
    by_cases new : ∃ c, o = .set m c
    · obtain ⟨c, rfl⟩ := new
      refine .inr ⟨os, [], ?_, List.not_mem_nil, fun _ => List.not_mem_nil⟩
      rw [show ((d.obeyAll os).obey (.set m c)).latch.commands.get m = c from Sides.get_set_self ..]
    · -- any other order leaves the command of `m` as it was
      have kept : ((d.obeyAll os).obey o).latch.commands.get m =
          (d.obeyAll os).latch.commands.get m := by
        cases o with
        | set m' c =>
          exact Sides.get_set_of_ne _ _ (fun same => new ⟨c, by rw [same]⟩)
        | disable => exact absurd rfl gone
        | enable => rfl
        | overflow => rfl
        | compare m' => rfl
      rw [kept]
      obtain braked | ⟨before, after, split, enabled, last⟩ := ih
      · exact .inl braked
      · refine .inr ⟨before, after ++ [o], ?_, ?_, fun c => ?_⟩
        · rw [← List.cons_append, ← List.append_assoc, ← split]
        · simpa [enabled] using fun e => gone e.symm
        · simpa [last c] using fun e => new ⟨c, e.symm⟩

/-- The two legs of a motor are never high together after construction, not even between two writes
of an order. Between orders a leg is high only under an enabled command with a duty, the timer has
exactly the events of the commands, and every command is the brake or was set, as the last one for
its motor, after the last disabling. -/
theorem legs_never_overlap (stage : PinStage) (free : stage.Free) (os : List Order) :
    let d := (MotorDriver.start stage).obeyAll os
    (∀ o done, done <+: d.latch.actions o → (performAll d.stage done).Apart) ∧
    (∀ m leg, d.stage.line m leg = true →
      d.latch.enabled = true ∧ (d.latch.commands.get m).duty ≠ 0) ∧
    (∀ m, d.stage.compares.get m = compareFor (d.latch.commands.get m).duty ∧
      (d.stage.compares.get m = none ↔ (d.latch.commands.get m).duty = 0) ∧
      ∀ tick, d.stage.compares.get m = some tick →
        tick.toNat + (d.latch.commands.get m).duty.toNat = 255) ∧
    ∀ m, d.latch.commands.get m = .brake ∨
      ∃ before after, os = before ++ .set m (d.latch.commands.get m) :: after ∧
        .disable ∉ after ∧ ∀ c, .set m c ∉ after := by
  intro d
  have sound : d.Sound := (Sound.start free).obeyAll os
  refine ⟨fun o done => sound.apart_within, sound.driven, fun m => ?_, fun m => ?_⟩
  · rw [sound.scheduled m]
    exact ⟨rfl, compareFor_eq_none_iff, fun tick => add_duty_of_compareFor⟩
  · exact command_origin (Sides.get_both _ m) os

/-- A reversal in the middle of a period, on a stage that had all legs high at power-up: while the
right-hand event is carried out, the legs stay apart after the first of its two writes. -/
theorem legs_never_overlap_reversal :
    let stage : PinStage := ⟨.both ⟨⟨true, false⟩, ⟨true, false⟩⟩, .both (some 7)⟩
    let d := (MotorDriver.start stage).obeyAll
      [.enable, .set .right ⟨.forward, 200⟩, .compare .right, .set .right ⟨.backward, 50⟩]
    stage.Free ∧ d.stage.line .right .forward = true ∧
      (performAll d.stage [.leg .right ⟨.forward, false⟩]).Apart := by
  intro stage d
  have free : stage.Free := by
    intro m leg
    cases m <;> cases leg <;> rfl
  refine ⟨free, rfl, ?_⟩
  exact (legs_never_overlap stage free _).1 (.compare .right) _ ⟨[.leg .right ⟨.backward, true⟩], rfl⟩

end MotorDriver

end SpeedController.Power
