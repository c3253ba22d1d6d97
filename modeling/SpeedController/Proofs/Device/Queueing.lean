import SpeedController.Proofs.Device.Hosting
import SpeedController.Proofs.Device.Sensing

/-!
# Queued pulses

Pulses wait in the queue until the control loop drains it. What a device would be if it took the
waiting pulses now is `Ahead` of it, and an edge that queues a pulse moves `Ahead` by that pulse at
once (`Ahead.handle`), however long the pulse itself has to wait. Once the queue is empty nothing is
ahead any more. The main statement is `queueing_transparent`.
-/

namespace SpeedController

open Power Receiver

/-- Whether an event can lie between two steps of the supervisor when no verdict on the signal falls
and the control loop takes pulses off the queue only. -/
def Event.betweenSteps : Event → Bool
  | .watchdog | .pulse _ | .update | .step _ => false
  | _ => true

namespace Device

/-- What happens in place of an event if a pulse that is queued is taken into account at once. -/
def promptly (d : BenchDevice) : Event → List Event
  | .edge channel now => (d.accepted (.edge channel now)).map .pulse
  | .drain => []
  | e => [e]

/-- The control path of both devices is in the same state. -/
structure InStep (d d' : BenchDevice) : Prop where
  status : d'.status = d.status
  steering : d'.steering = d.steering
  latch : d'.motors.latch = d.motors.latch

/-- The control path of `direct` is where that of `d` would be if it took the waiting pulses. -/
def Ahead (d direct : BenchDevice) : Prop := InStep (d.run (d.queue.entries.map .pulse)) direct

section
variable {d d' d'' direct : BenchDevice} {e : Event} {es : List Event}

/-- Only edges and drains reach the queue. -/
lemma noted_handle (d : BenchDevice) (between : e.betweenSteps = true) (undrained : e ≠ .drain) :
    Noted d (d.handle e) (d.sensed e) := by
  cases e with
  | watchdog | pulse | update | step => cases between
  | edge channel now => exact d.noted_edge channel now
  | drain => exact absurd rfl undrained
  | overflow | compare | receive | collect | failWrites | failLoads => exact .nothing rfl rfl

/-- Without a drain every accepted pulse waits. -/
lemma entries_handle (d : BenchDevice) (between : e.betweenSteps = true) (undrained : e ≠ .drain) :
    (d.handle e).queue.entries = d.queue.entries ++ d.accepted e :=
  (d.noted_handle between undrained).entries

lemma entries_run (d : BenchDevice) (between : ∀ e ∈ es, e.betweenSteps = true)
    (undrained : ∀ e ∈ es, e ≠ .drain) :
    (d.run es).queue.entries = d.queue.entries ++ d.observed accepted es := by
  induction es generalizing d with
  | nil => exact (List.append_nil _).symm
  | cons e es ih =>
    rw [List.forall_mem_cons] at between undrained
    rw [run_cons, ih _ between.2 undrained.2, d.entries_handle between.1 undrained.1, observed,
      List.append_assoc]

lemma InStep.refl (d : BenchDevice) : InStep d d := ⟨rfl, rfl, rfl⟩

lemma InStep.symm (h : InStep d d') : InStep d' d :=
  ⟨h.status.symm, h.steering.symm, h.latch.symm⟩

lemma InStep.trans (h : InStep d d') (h' : InStep d' d'') : InStep d d'' where
  status := h'.status.trans h.status
  steering := h'.steering.trans h.steering
  latch := h'.latch.trans h.latch

lemma InStep.update (h : InStep d d') : InStep d.update.2 d'.update.2 := by
  have due' := congrArg Status.calibrationDue h.status
  cases due : d.status.calibrationDue with
  | true =>
    rw [update_of_due due, update_of_due (due'.trans due), h.status, h.steering]
    exact { h with status := rfl, steering := rfl }
  | false =>
    rw [update_of_calm due, update_of_calm (due'.trans due), h.status, h.steering]
    refine ⟨rfl, rfl, ?_⟩
    simp only [MotorDriver.setBoth, MotorDriver.obey, h.latch]

lemma InStep.onPulse (h : InStep d d') (p : Pulse) : InStep (d.onPulse p).2 (d'.onPulse p).2 := by
  cases sampled : p.sample? with
  | none =>
    rw [onPulse_of_unsampled d sampled, onPulse_of_unsampled d' sampled]
    exact h
  | some sample =>
    rw [Device.onPulse, Device.onPulse, sampled]
    have pushed : InStep { d with steering := d.steering.push p.channel sample }
        { d' with steering := d'.steering.push p.channel sample } :=
      { h with steering := by rw [h.steering] }
    exact pushed.update

lemma InStep.pulses (h : InStep d d') (ps : List Pulse) :
    InStep (d.run (ps.map .pulse)) (d'.run (ps.map .pulse)) := by
  induction ps generalizing d d' with
  | nil => exact h
  | cons p ps ih => exact ih (h.onPulse p)

/-- Only a drain reaches the control path. -/
lemma inStep_handle (d : BenchDevice) (between : e.betweenSteps = true) (undrained : e ≠ .drain) :
    InStep d (d.handle e) := by
  cases e with
  | watchdog | pulse | update | step => cases between
  | drain => exact absurd rfl undrained
  | edge channel now =>
    obtain ⟨queue, frame⟩ := d.edge_frame channel now
    rw [Device.handle, frame]
    exact ⟨rfl, rfl, rfl⟩
  | overflow | compare | receive | collect | failWrites | failLoads => exact ⟨rfl, rfl, rfl⟩

/-- What is queued is taken into account at once by a device that is ahead. -/
lemma Ahead.queue {ps : List Pulse} (h : Ahead d direct) (kept : InStep d d')
    (entries : d'.queue.entries = d.queue.entries ++ ps) :
    Ahead d' (direct.run (ps.map .pulse)) := by
  have taken : InStep (d'.run (d.queue.entries.map .pulse)) direct :=
    (kept.symm.pulses d.queue.entries).trans h
  unfold Ahead
  rw [entries, List.map_append, run_append]
  exact taken.pulses ps

lemma Ahead.drain (h : Ahead d direct) : Ahead d.drain.2 direct := by
  have taken : InStep d.drain.2 (d.run (d.queue.entries.map .pulse)) := by
    rw [drain_snd]
    exact ⟨rfl, rfl, rfl⟩
  exact taken.trans h

lemma Ahead.handle (h : Ahead d direct) (between : e.betweenSteps = true) :
    Ahead (d.handle e) (direct.run (d.promptly e)) := by
  by_cases drained : e = .drain
  · subst drained
    exact h.drain
  · have queued := h.queue (d.inStep_handle between drained) (d.entries_handle between drained)
    cases e with
    | watchdog | pulse | update | step => cases between
    | drain => exact absurd rfl drained
    | edge => exact queued
    | overflow | compare | receive | collect | failWrites | failLoads =>
      -- the same happens to both devices
      exact InStep.trans queued (direct.inStep_handle between drained)

/-- A device stays ahead while it is given the accepted pulses at once. -/
lemma Ahead.run (h : Ahead d direct) (between : ∀ e ∈ es, e.betweenSteps = true) :
    Ahead (d.run es) (direct.run (d.observed promptly es)) := by
  induction es generalizing d direct with
  | nil => exact h
  | cons e es ih =>
    obtain ⟨first, later⟩ := List.forall_mem_cons.1 between
    rw [run_cons, observed, run_append]
    exact ih (h.handle first) later

/-- Nothing is ahead of an empty queue. -/
lemma Ahead.inStep (h : Ahead d direct) (empty : d.queue.entries = []) : InStep d direct := by
  unfold Ahead at h
  rw [empty] at h
  exact h

/-- Every completed pulse counts, also one that is refused. -/
lemma count_handle (d : BenchDevice) (between : e.betweenSteps = true) :
    min (d.handle e).acquisition.count pulseCountLimit =
      min (d.acquisition.count + (d.completed e).length) pulseCountLimit := by
  by_cases drained : e = .drain
  · subst drained
    exact congrArg (min ·.count pulseCountLimit) d.acquisition_drain
  · have noted := d.noted_handle between drained
    unfold completed
    generalize d.sensed e = answer at noted ⊢
    cases noted with
    | nothing _ count => rw [count]; rfl
    | queued _ count | refused _ _ count =>
      rw [count]
      exact Nat.min_eq_left (Nat.min_le_right _ _)

lemma count_run (d : BenchDevice) (between : ∀ e ∈ es, e.betweenSteps = true) :
    min (d.run es).acquisition.count pulseCountLimit =
      min (d.acquisition.count + (d.observed completed es).length) pulseCountLimit := by
  induction es generalizing d with
  | nil => rfl
  | cons e es ih =>
    obtain ⟨first, later⟩ := List.forall_mem_cons.1 between
    have count := d.count_handle first
    rw [run_cons, ih _ later, observed, List.length_append]
    omega

/-- A completed pulse is refused exactly when the queue is full. -/
lemma refused_iff {channel : Channel} {now : UInt16} {p : Pulse} {queued : Bool}
    (answer : (d.edge channel now).1 = some (p, queued)) :
    queued = false ↔ d.queue.length = pulseSlots - 1 := by
  have noted := d.noted_edge channel now
  rw [answer] at noted
  cases noted with
  | refused full => exact iff_of_true rfl full
  | queued entries =>
    -- the pulse has found a place
    have fits := (d.edge channel now).2.queue.length_le
    rw [entries, List.length_append, List.length_singleton] at fits
    exact iff_of_false Bool.noConfusion (Nat.ne_of_lt fits)

lemma watchdog_eq_good_iff (d : BenchDevice) :
    d.watchdog.1 = .good ↔ fewestGoodPulses ≤ d.acquisition.count := by
  by_cases few : d.acquisition.count < fewestGoodPulses
  · rw [watchdog_of_few few]
    exact iff_of_false nofun (Nat.not_le.2 few)
  · rw [watchdog_of_enough few]
    exact iff_of_true rfl (Nat.not_lt.1 few)

end

/-- Between two steps of the supervisor, while no verdict on the signal falls, let pulses complete and
the queue be drained in any order, from any state of the device. Once the queue is empty the averages
and the mixer, the registers with the calibration that may be due, and the latched commands are those
of a device that takes the waiting pulses at the beginning, and every accepted pulse when it completes.
A pulse is refused exactly when fifteen wait, and the watchdog counts it all the same. A pulse that is
too wide changes nothing. A drain answers how many pulses were accepted since the queue was empty, if
it was not drained since. -/
theorem queueing_transparent (d : BenchDevice) (es : List Event)
    (between : ∀ e ∈ es, e.betweenSteps = true) :
    let d' := d.run es
    let direct := d.run (d.queue.entries.map .pulse ++ d.observed promptly es)
    (d'.queue.entries = [] →
      d'.steering = direct.steering ∧ d'.status = direct.status ∧
      d'.motors.latch = direct.motors.latch) ∧
    (∀ channel now p queued, (d'.edge channel now).1 = some (p, queued) →
      (queued = false ↔ d'.queue.length = 15)) ∧
    (d'.watchdog.1 = .good ↔
      fewestGoodPulses ≤ d.acquisition.count + (d.observed completed es).length) ∧
    (∀ p, widestPulse < p.width → d'.onPulse p = (none, d')) ∧
    ∀ before stretch, es = before ++ stretch → (d.run before).queue.entries = [] →
      (∀ e ∈ stretch, e ≠ .drain) →
      d'.drain.1 = ((d.run before).observed accepted stretch).length := by
  intro d' direct
  have later : direct = (d.run (d.queue.entries.map .pulse)).run (d.observed promptly es) :=
    run_append ..
  have ahead : Ahead d' direct := by
    rw [later]
    exact Ahead.run (.refl _) between
  refine ⟨fun empty => ?_, fun _ _ _ _ => refused_iff, ?_, fun p wide => ?_, ?_⟩
  · have same := ahead.inStep empty
    exact ⟨same.steering.symm, same.status.symm, same.latch.symm⟩
  · rw [watchdog_eq_good_iff]
    have count : min d'.acquisition.count _ = _ := d.count_run between
    simp only [pulseCountLimit, fewestGoodPulses] at count ⊢
    omega
  · exact d'.onPulse_of_unsampled (if_pos wide)
  · rintro before stretch rfl empty undrained
    have later := (List.forall_mem_append.1 between).2
    have entries := (d.run before).entries_run later undrained
    rw [empty, List.nil_append, ← run_append] at entries
    exact congrArg List.length entries

/-- A calibration is due when an over-long pulse and two others wait. The first of the two takes it, and
the second one is mixed. Then seventeen pulses come at once: two of them are refused, but they make up
a signal with the others. -/
theorem queueing_transparent_overflow :
    let d : BenchDevice := { unset with status.calibrationDue := true }
    let before : List Event := [.edge .ch1 0, .edge .ch1 600, .edge .ch2 0, .edge .ch2 400,
      .edge .ch1 7, .edge .ch1 257, .drain]
    let stretch := (List.replicate 17 [.edge .ch1 0, .edge .ch1 500]).flatten ++ [.edge .ch2 0]
    let full := d.run (before ++ stretch)
    let es := before ++ stretch ++ [.drain]
    ((∀ e ∈ es, e.betweenSteps = true) ∧ (d.run before).queue.entries = [] ∧
      (∀ e ∈ stretch, e ≠ .drain) ∧ (d.run es).queue.entries = []) ∧
    (full.edge .ch2 300).1 = some (⟨.ch2, 300, 300⟩, false) ∧ full.queue.length = 15 ∧
    full.watchdog.1 = .good ∧ full.onPulse ⟨.ch1, 600, 600⟩ = (none, full) ∧ full.drain.1 = 15 ∧
    (d.run es).motors.latch = (d.run (d.observed promptly es)).motors.latch ∧
    (d.run es).motors.latch.commands.left = ⟨.forward, 255⟩ := by
  intro d before stretch full es
  have between : ∀ e ∈ es, e.betweenSteps = true := by decide +kernel
  have earlier : ∀ e ∈ before ++ stretch, e.betweenSteps = true :=
    fun e member => between e (List.mem_append_left _ member)
  have empty : (d.run before).queue.entries = [] := by decide +kernel
  have undrained : ∀ e ∈ stretch, e ≠ .drain := by decide +kernel
  have drained : (d.run es).queue.entries = [] := by
    rw [run_append]
    rfl
  have refused : (full.edge .ch2 300).1 = some (⟨.ch2, 300, 300⟩, false) := by decide +kernel
  obtain ⟨-, places, verdict, wide, taken⟩ := queueing_transparent d (before ++ stretch) earlier
  obtain ⟨settled, -⟩ := queueing_transparent d es between
  have idle : d.queue.entries = [] := rfl
  rw [idle, List.map_nil, List.nil_append] at settled
  refine ⟨⟨between, empty, undrained, drained⟩, refused, (places _ _ _ _ refused).1 rfl,
    verdict.2 (by decide +kernel), wide _ (by decide), ?_, (settled drained).2.2, by decide +kernel⟩
  exact (taken before stretch rfl empty undrained).trans (by decide +kernel)

end Device

end SpeedController
