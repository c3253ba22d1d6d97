import SpeedController.Proofs.Power.Interlock

/-!
# Pins that fail

A bridge over pins any write to which may fail. The first write of a request lowers a leg, so it
keeps the legs apart (`Apart.lower`); the second write of a drive raises a leg, whether or not the
first one has worked. So the legs come to be high together just by a drive that cannot lower the
opposite leg and does raise its own (`Shorts`). The main statement is `failing_legs_apart_iff`.
-/

namespace SpeedController.Power

lemma Direction.opposite_ne (d : Direction) : d.opposite ≠ d := by
  cases d <;> exact Direction.noConfusion

namespace Bridge

/-- The two legs are not both high. -/
def Apart (b : Bridge) : Prop := ¬(b.forward.high = true ∧ b.backward.high = true)

/-- What is asked of a bridge. -/
inductive Request where
  | drive (direction : Direction)
  | release
  deriving DecidableEq, Repr

/-- The writes that a request takes. -/
def Request.writes : Request → List LegWrite
  | .drive d => driveWrites d
  | .release => releaseWrites

/-- A write, and whether it fails. -/
structure Attempt where
  write : LegWrite
  fails : Bool
  deriving DecidableEq, Repr

/-- A request, and which of its two writes fail. -/
structure Trial where
  request : Request
  firstFails : Bool
  secondFails : Bool
  deriving DecidableEq, Repr

/-- The writes of a trial in their order. -/
def Trial.attempts (t : Trial) : List Attempt :=
  List.zipWith Attempt.mk t.request.writes [t.firstFails, t.secondFails]

/-- Attempt a write: the pin is stuck just for the writes that fail. -/
def attempt (b : Bridge) (a : Attempt) : Bridge := (b.setStuck a.write.leg a.fails).write a.write

/-- Attempt writes in order. -/
def attemptAll (b : Bridge) (as : List Attempt) : Bridge := as.foldl attempt b

/-- The trial drives the motor, but fails to lower the opposite leg, which is high. -/
def Shorts (b : Bridge) (t : Trial) : Prop :=
  ∃ d, t = ⟨.drive d, true, false⟩ ∧ (b.leg d.opposite).high = true

/-- No trial of a run shorts the bridge. -/
def Unshorted (b : Bridge) (ts : List Trial) : Prop :=
  ∀ before t after, ts = before ++ t :: after →
    ¬(b.attemptAll (before.flatMap Trial.attempts)).Shorts t

/-- Follow a request. -/
def follow (b : Bridge) : Request → Bridge
  | .drive d => b.drive d
  | .release => b.release

variable {b : Bridge} {a : Attempt} {t : Trial} {ts : List Trial}

lemma apart_iff {d : Direction} :
    b.Apart ↔ ¬((b.leg d).high = true ∧ (b.leg d.opposite).high = true) := by
  cases d with
  | forward => exact Iff.rfl
  | backward => exact not_congr And.comm

/-- A write that works sets its leg, and nothing else changes. -/
lemma high_attempt (b : Bridge) (a : Attempt) (leg : Direction) :
    ((b.attempt a).leg leg).high =
      if leg = a.write.leg ∧ a.fails = false then a.write.high else (b.leg leg).high := by
  obtain ⟨⟨written, high⟩, fails⟩ := a
  cases leg <;> cases written <;> cases fails <;> rfl

lemma Apart.lower (apart : b.Apart) (lowers : a.write.high = false) : (b.attempt a).Apart := by
  rintro ⟨forward, backward⟩
  have high (leg : Direction) (up : ((b.attempt a).leg leg).high = true) :
      (b.leg leg).high = true := by
    rw [high_attempt, lowers] at up
    split at up
    · cases up
    · exact up
  exact apart ⟨high .forward forward, high .backward backward⟩

/-- A trial drives as far as its writes work. -/
lemma high_drive (b : Bridge) (d : Direction) (first second : Bool) :
    let b' := b.attemptAll (Trial.attempts ⟨.drive d, first, second⟩)
    (b'.leg d).high = (!second || (b.leg d).high) ∧
      (b'.leg d.opposite).high = (first && (b.leg d.opposite).high) := by
  cases d <;> cases first <;> cases second <;>
    simp [attemptAll, Trial.attempts, Request.writes, driveWrites, high_attempt, Direction.opposite]

/-- The first write of a request lowers a leg. -/
lemma exists_attempts (t : Trial) : ∃ first second, t.attempts = [first, second] ∧
    first.write.high = false := by
  obtain ⟨_ | _, firstFails, secondFails⟩ := t
  · exact ⟨_, _, rfl, rfl⟩
  · exact ⟨_, _, rfl, rfl⟩

/-- A trial that does not short the bridge keeps the legs apart. -/
lemma Apart.undergo (apart : b.Apart) (safe : ¬b.Shorts t) : (b.attemptAll t.attempts).Apart := by
  obtain ⟨d | _, first, second⟩ := t
  · obtain ⟨own, opposite⟩ := b.high_drive d first second
    rw [apart_iff (d := d)] at apart ⊢
    rw [own, opposite]
    rintro ⟨up, stays⟩
    obtain ⟨rfl, high⟩ := Bool.and_eq_true_iff.1 stays
    cases second with
    | false => exact safe ⟨d, rfl, high⟩
    | true => exact apart ⟨by simpa using up, high⟩
  · exact (apart.lower (a := ⟨⟨.forward, false⟩, first⟩) rfl).lower
      (a := ⟨⟨.backward, false⟩, second⟩) rfl

lemma attemptAll_append (b : Bridge) (as as' : List Attempt) :
    b.attemptAll (as ++ as') = (b.attemptAll as).attemptAll as' := List.foldl_append

/-- An attempt that fails just if the pin is stuck is a write. -/
lemma attempt_of_own (own : a.fails = (b.leg a.write.leg).stuck) :
    b.attempt a = b.write a.write := by
  have kept : b.setStuck a.write.leg a.fails = b := by
    rw [own]
    cases a.write.leg <;> rfl
  rw [attempt, kept]

/-- A write leaves the pins as free as they were. -/
lemma stuck_write (b : Bridge) (w : LegWrite) (leg : Direction) :
    ((b.write w).leg leg).stuck = (b.leg leg).stuck := by
  rw [leg_write]
  split
  · exact Pin.stuck_write _ _
  · rfl

lemma attemptAll_of_own {as : List Attempt}
    (own : ∀ a ∈ as, a.fails = (b.leg a.write.leg).stuck) :
    b.attemptAll as = b.writeAll (as.map (·.write)) := by
  induction as generalizing b with
  | nil => rfl
  | cons a as ih =>
    have first := attempt_of_own (own a List.mem_cons_self)
    have later : ∀ a' ∈ as, a'.fails = ((b.write a.write).leg a'.write.leg).stuck := by
      intro a' member
      rw [stuck_write]
      exact own a' (List.mem_cons_of_mem a member)
    calc b.attemptAll (a :: as)
      _ = (b.write a.write).attemptAll as := congrArg (attemptAll · as) first
      _ = (b.write a.write).writeAll (as.map (·.write)) := ih later

/-- A trial whose writes fail just at the stuck pins follows the request. -/
lemma undergo_of_own (own : ∀ a ∈ t.attempts, a.fails = (b.leg a.write.leg).stuck) :
    b.attemptAll t.attempts = b.follow t.request := by
  rw [attemptAll_of_own own]
  obtain ⟨_ | _, first, second⟩ := t <;> rfl

lemma unshorted_cons (unshorted : b.Unshorted (t :: ts)) :
    ¬b.Shorts t ∧ (b.attemptAll t.attempts).Unshorted ts := by
  refine ⟨unshorted [] t ts rfl, ?_⟩
  intro before t' after split
  have shifted := unshorted (t :: before) t' after (congrArg (t :: ·) split)
  rwa [List.flatMap_cons, attemptAll_append] at shifted

/-- While no trial shorts the bridge, the legs are apart, also between the two writes of a trial. -/
lemma Unshorted.apart (unshorted : b.Unshorted ts) (apart : b.Apart) {done : List Attempt}
    (part : done <+: ts.flatMap Trial.attempts) : (b.attemptAll done).Apart := by
  induction ts generalizing b done with
  | nil =>
    rw [List.prefix_nil.1 part]
    exact apart
  | cons t ts ih =>
    obtain ⟨safe, later⟩ := unshorted_cons unshorted
    have after := apart.undergo safe
    obtain ⟨first, second, attempts, lowers⟩ := exists_attempts t
    rw [List.flatMap_cons, attempts] at part
    rw [attempts] at after later
    -- `done` stops before the first trial, between its two writes or after it
    rcases List.prefix_cons_iff.1 part with rfl | ⟨done', rfl, part'⟩
    · exact apart
    rcases List.prefix_cons_iff.1 part' with rfl | ⟨done'', rfl, part''⟩
    · exact apart.lower lowers
    · exact ih later after part''

/-- Every write that raises a leg and works is made while the opposite leg is low. -/
def RaisesLow (b : Bridge) (as : List Attempt) : Prop :=
  ∀ done leg rest, as = done ++ ⟨⟨leg, true⟩, false⟩ :: rest →
    ((b.attemptAll done).leg leg.opposite).high = false

/-- Legs that are apart throughout are raised one at a time. -/
lemma raisesLow_of_apart {as : List Attempt}
    (apart : ∀ done, done <+: as → (b.attemptAll done).Apart) : b.RaisesLow as := by
  intro done leg rest split
  have raised := apart (done ++ [⟨⟨leg, true⟩, false⟩]) ⟨rest, by simp [split]⟩
  rw [attemptAll_append, apart_iff (d := leg)] at raised
  have own : (((b.attemptAll done).attempt ⟨⟨leg, true⟩, false⟩).leg leg).high = true := by
    rw [high_attempt, if_pos ⟨rfl, rfl⟩]
  have opposite : (((b.attemptAll done).attempt ⟨⟨leg, true⟩, false⟩).leg leg.opposite).high =
      ((b.attemptAll done).leg leg.opposite).high := by
    rw [high_attempt, if_neg (fun same => leg.opposite_ne same.1)]
  rw [Bool.eq_false_iff]
  intro high
  exact raised ⟨own, opposite.trans high⟩

/-- A trial that shorts the bridge raises a leg while the opposite one is high. -/
lemma unshorted_of_raisesLow (low : b.RaisesLow (ts.flatMap Trial.attempts)) : b.Unshorted ts := by
  rintro before t after rfl ⟨d, rfl, high⟩
  let fails : Attempt := ⟨⟨d.opposite, false⟩, true⟩
  have still := low (before.flatMap Trial.attempts ++ [fails]) d (after.flatMap Trial.attempts)
    (by simp [fails, Trial.attempts, Request.writes, driveWrites])
  rw [attemptAll_append] at still
  -- the write that fails leaves the opposite leg as high as the trial has found it
  have kept : (((b.attemptAll (before.flatMap Trial.attempts)).attempt fails).leg d.opposite).high =
      ((b.attemptAll (before.flatMap Trial.attempts)).leg d.opposite).high := by
    rw [high_attempt, if_neg (fun works => Bool.noConfusion works.2)]
  exact absurd (kept.symm.trans still) (by simp [high])

/-- Both legs of a bridge are never high together, and no leg is raised while the opposite one is
high, just if no trial shorts the bridge: if no drive fails to lower the opposite leg when that is
high and then raises its own. The writes may fail one by one in any pattern; where they fail just at
the pins that are stuck, a trial is the drive or the release of the bridge. -/
theorem failing_legs_apart_iff {b : Bridge} (apart : b.Apart) (ts : List Trial) :
    let attempts := ts.flatMap Trial.attempts
    ((∀ done, done <+: attempts → (b.attemptAll done).Apart) ↔ b.Unshorted ts) ∧
    (b.RaisesLow attempts ↔ b.Unshorted ts) ∧
    ∀ (b' : Bridge) (t : Trial),
      (∀ a ∈ t.attempts, a.fails = (b'.leg a.write.leg).stuck) →
      b'.attemptAll t.attempts = b'.follow t.request := by
  intro attempts
  have throughout (safe : b.Unshorted ts) (done : List Attempt) (part : done <+: attempts) :
      (b.attemptAll done).Apart := safe.apart apart part
  refine ⟨⟨?_, throughout⟩, ⟨unshorted_of_raisesLow, ?_⟩, fun b' t => undergo_of_own⟩
  · intro all
    exact unshorted_of_raisesLow (raisesLow_of_apart all)
  · intro safe
    exact raisesLow_of_apart (throughout safe)

/-- The pin of the forward leg is stuck while that leg is high. A release does not help, and a drive
backward raises the other leg, too; had the pin come free for the drive, the legs would have stayed
apart. -/
theorem failing_legs_apart_iff_stuck :
    let b : Bridge := ⟨⟨true, false⟩, ⟨false, false⟩⟩
    b.Apart ∧
      ¬(∀ done, done <+: [Trial.mk .release true false, ⟨.drive .backward, true, false⟩].flatMap
        Trial.attempts → (b.attemptAll done).Apart) ∧
      ∀ done, done <+: [Trial.mk .release true false, ⟨.drive .backward, false, false⟩].flatMap
        Trial.attempts → (b.attemptAll done).Apart := by
  intro b
  have apart : b.Apart := by
    rintro ⟨-, backward⟩
    cases backward
  refine ⟨apart, ?_, ?_⟩
  · intro all
    have safe := (failing_legs_apart_iff apart _).1.1 all
    exact safe [_] _ [] rfl ⟨.backward, rfl, rfl⟩
  · apply (failing_legs_apart_iff apart _).1.2
    rintro before _ after split ⟨d, rfl, -⟩
    have member : (⟨.drive d, true, false⟩ : Trial) ∈ before ++ ⟨.drive d, true, false⟩ :: after :=
      List.mem_append_right _ List.mem_cons_self
    rw [← split] at member
    simp at member

/-- It is not the case that legs which are apart stay apart over failing pins. -/
theorem failing_legs_short :
    ¬∀ (b : Bridge) (ts : List Trial), b.Apart →
      ∀ done, done <+: ts.flatMap Trial.attempts → (b.attemptAll done).Apart := by
  intro stay
  have both := stay ⟨⟨true, false⟩, ⟨false, false⟩⟩ [⟨.drive .backward, true, false⟩]
    (fun ⟨_, backward⟩ => Bool.noConfusion backward) _ (List.prefix_refl _)
  exact both ⟨rfl, rfl⟩

end Bridge

end SpeedController.Power
