import SpeedController.Proofs.Device.Rest
import SpeedController.Proofs.Power.Agreement

/-!
# Recovery from a lost signal

A loss of the signal neither clears the averages nor keeps the control loop from latching commands,
but what came before it is forgotten by the time the motors are enabled again. Two devices that lost
their signal with different averages and commands are compared over the same frames. `Washed n` says
that the last `n` samples of either channel are the same in both: as soon as they fill the averages,
the commands are the same (`Washed.onPulse`), and a good window has enough frames for that
(`Abreast.watchdog`). Every occurrence keeps the devices abreast (`Abreast.run`), and in no phase does
a motor tell them apart (`recovery_memoryless`).
-/

namespace SpeedController

open Link Mixing Power Receiver
open Settings (RamStore)

namespace Device

/-- A device that has run since power-up has just closed a window without a signal. It followed the
signal, and no pulse is queued. -/
def JustLost (d : BenchDevice) : Prop :=
  ∃ version transport store es,
    ((boot version transport store).2.run es).watchdog = (.lost, d) ∧ d.Driving ∧ d.queue = .empty

/-- Outside the active phase both pins of a bridge work and are low. -/
lemma Guarded.bridge_eq {d : BenchDevice} (g : d.Guarded) (quiet : d.status.phase ≠ .active)
    (m : Motor) : d.motors.stage.bridges.get m = ⟨⟨false, false⟩, ⟨false, false⟩⟩ := by
  have forward := g.sound.free m .forward
  have backward := g.sound.free m .backward
  have low := g.line_eq_false quiet m .forward
  have low' := g.line_eq_false quiet m .backward
  unfold PinStage.line at low low'
  generalize d.motors.stage.bridges.get m = b at *
  obtain ⟨⟨_, _⟩, ⟨_, _⟩⟩ := b
  cases forward
  cases backward
  cases low
  cases low'
  rfl

/-- Devices whose motors are disabled agree on a motor if they have the same command for it. -/
lemma Guarded.agree_of_quiet {d d' : BenchDevice} (g : d.Guarded) (g' : d'.Guarded)
    (quiet : d.status.phase ≠ .active) (quiet' : d'.status.phase ≠ .active) {m : Motor}
    (same : d'.motors.latch.commands.get m = d.motors.latch.commands.get m) :
    d.motors.Agree m d'.motors := by
  have enabled : d'.motors.latch.enabled = d.motors.latch.enabled := by
    rw [Bool.eq_iff_iff, g.enabled_iff, g'.enabled_iff]
    exact ⟨fun active => absurd active quiet', fun active => absurd active quiet⟩
  refine ⟨enabled, same, ?_, ?_⟩
  · rw [g.bridge_eq quiet, g'.bridge_eq quiet']
  · rw [g.sound.scheduled m, g'.sound.scheduled m, same]

/-- Averages that are filled with common samples give common commands. -/
lemma commands_eq_of_alike {s s' : Steering} {n : Axes Nat}
    (averages : ∀ c, (s.filters.get c).Alike (s'.filters.get c) (n.get c))
    (full : ∀ c, filterLength ≤ n.get c) (mixer : s'.mixer = s.mixer) (settings : Settings) :
    s'.commands settings = s.commands settings := by
  have samples : s'.samples = s.samples := by
    refine Axes.eq_of_get fun c => ?_
    rw [Steering.samples, Steering.samples, Axes.get_map, Axes.get_map]
    exact (averages c).mean_eq (full c) (by decide)
  rw [Steering.commands, Steering.commands, samples, mixer]

/-- What holds of two devices that follow the signal after `n` common samples on either channel. -/
structure Washed (n : Axes Nat) (d d' : BenchDevice) : Prop where
  guarded : d.Guarded
  guarded' : d'.Guarded
  driving : d.Driving
  status : d'.status = d.status
  mixer : d'.steering.mixer = d.steering.mixer
  averages : ∀ c, (d.steering.filters.get c).Alike (d'.steering.filters.get c) (n.get c)
  ready : d.status.signalGood = true ∨ d.status.phase = .active → ∀ c, filterLength ≤ n.get c
  motors : (∀ c, filterLength ≤ n.get c) → ∀ m, d.motors.Agree m d'.motors

variable {n : Axes Nat} {k : Nat} {d d' : BenchDevice}

lemma Washed.calm (h : Washed n d d') :
    d.status.calibrationDue = false ∧ d'.status.calibrationDue = false := by
  have calm := (h.guarded.driving h.driving).2
  exact ⟨calm, by rw [h.status, calm]⟩

lemma Washed.driving' (h : Washed n d d') : d'.Driving := by
  rw [Driving, h.status]
  exact h.driving

/-- The receiver and the queue are beside the point. -/
lemma Washed.sense (h : Washed n d d') (acquisition acquisition' : Acquisition)
    (queue queue' : PulseQueue) :
    Washed n { d with acquisition, queue } { d' with acquisition := acquisition', queue := queue' } :=
  { h with guarded := { h.guarded with }, guarded' := { h.guarded' with } }

/-- A signal may be seen once the old samples are gone. -/
lemma Washed.verdict (h : Washed n d d') (acquisition : Acquisition) (good : Bool)
    (full : good = true → ∀ c, filterLength ≤ n.get c) :
    Washed n { d with acquisition, status.signalGood := good }
      { d' with acquisition, status.signalGood := good } :=
  { h with
    guarded := h.guarded.move .sense
    guarded' := h.guarded'.move .sense
    status := by rw [h.status]
    ready := fun good => good.elim full fun active => h.ready (.inr active) }

lemma Washed.averages_push (h : Washed n d d') (channel : Channel) (sample : UInt16) (c : Channel) :
    ((d.steering.push channel sample).filters.get c).Alike
      ((d'.steering.push channel sample).filters.get c)
      ((n.set channel (n.get channel + 1)).get c) := by
  rw [Steering.push, Steering.push]
  by_cases own : c = channel
  · subst own
    rw [Axes.get_set_self, Axes.get_set_self, Axes.get_set_self]
    exact (h.averages c).push sample
  · rw [Axes.get_set_of_ne _ _ own, Axes.get_set_of_ne _ _ own, Axes.get_set_of_ne _ _ own]
    exact h.averages c

/-- A pulse that both take washes out an old sample of its channel. -/
lemma Washed.onPulse (h : Washed n d d') (p : Pulse) (narrow : p.width ≤ widestPulse) :
    Washed (n.set p.channel (n.get p.channel + 1)) (d.onPulse p).2 (d'.onPulse p).2 := by
  obtain ⟨sample, sampled⟩ := exists_sampleOfWidth? narrow
  have guarded := h.guarded.moves (moves_onPulse d p)
  have guarded' := h.guarded'.moves (moves_onPulse d' p)
  have averages := h.averages_push p.channel sample
  rw [onPulse_of_calm h.calm.1 sampled] at guarded ⊢
  rw [onPulse_of_calm h.calm.2 sampled] at guarded' ⊢
  refine ⟨guarded, guarded', h.driving, h.status, h.mixer, averages, ?_, fun full m => ?_⟩
  · exact fun good c => Nat.le_trans (h.ready good c) (le_get_set_succ n p.channel c)
  · have same := commands_eq_of_alike averages full h.mixer d.status.settings
    rw [← h.status] at same
    by_cases active : d.status.phase = .active
    · -- the motors turn, so they have agreed before and get the same commands now
      exact (h.motors (h.ready (.inr active)) m).setBoth (by rw [same, h.status])
    · apply guarded.agree_of_quiet guarded' active
      · show d'.status.phase ≠ .active
        rw [h.status]
        exact active
      · show (d'.motors.setBoth _).latch.commands.get m = (d.motors.setBoth _).latch.commands.get m
        rw [same, h.status]
        cases m <;> rfl

/-- Two devices between two frames, after `k` of them. -/
structure Abreast (k : Nat) (d d' : BenchDevice) : Prop where
  washed : Washed (.both k) d d'
  acquisition : d'.acquisition = d.acquisition
  waiting : d.acquisition.detectors = .both .waiting
  queue : d.queue = .empty
  queue' : d'.queue = .empty
  count : d.acquisition.count ≤ 2 * k

/-- A frame washes out an old sample of either channel. -/
lemma Abreast.frame (h : Abreast k d d') {widths : Axes UInt16}
    (narrow : ∀ c, widths.get c ≤ widestPulse) (tick : UInt16) :
    Abreast (k + 1) (d.run (Rest.events widths (.frame tick)))
      (d'.run (Rest.events widths (.frame tick))) := by
  obtain ⟨queue, run⟩ := run_frame h.waiting h.queue widths tick
  obtain ⟨queue', run'⟩ := run_frame (h.acquisition ▸ h.waiting) h.queue' widths tick
  rw [h.acquisition] at run'
  let counted : Acquisition :=
    { d.acquisition with count := min (d.acquisition.count + 2) pulseCountLimit }
  have washed := h.washed.sense counted counted queue queue'
  have pulses := (washed.onPulse ⟨.ch1, widths.get .ch1, tick + widths.ch1⟩ (narrow .ch1)).onPulse
    ⟨.ch2, widths.get .ch2, tick + widths.ch2⟩ (narrow .ch2)
  rw [run, run']
  refine ⟨pulses.sense _ _ .empty .empty, ?_, ?_, rfl, rfl, ?_⟩
  · simp only [acquisition_onPulse]
  · simp only [acquisition_onPulse]
    exact h.waiting
  · simp only [acquisition_onPulse]
    have := h.count
    omega

/-- A window with a signal has had ten frames. -/
lemma Abreast.watchdog (h : Abreast k d d') : Abreast k d.watchdog.2 d'.watchdog.2 := by
  by_cases few : d.acquisition.count < fewestGoodPulses
  · have washed := h.washed.verdict .start false nofun
    rw [watchdog_of_few few, watchdog_of_few (h.acquisition ▸ few)]
    exact ⟨washed, rfl, rfl, h.queue, h.queue', Nat.zero_le _⟩
  · have full : ∀ c, filterLength ≤ (Axes.both k).get c := by
      intro c
      -- twenty pulses are ten frames
      have := h.count
      rw [Axes.get_both]
      simp only [fewestGoodPulses, filterLength] at few ⊢
      omega
    have washed := h.washed.verdict { d.acquisition with count := 0, good := true } true fun _ => full
    rw [watchdog_of_enough few, watchdog_of_enough (h.acquisition ▸ few), h.acquisition]
    exact ⟨washed, rfl, h.waiting, h.queue, h.queue', Nat.zero_le _⟩

/-- The motors are only enabled once the signal is good, and so once the old samples are gone. -/
lemma Abreast.step (h : Abreast k d d') (now : UInt32) : Abreast k (d.step now).2 (d'.step now).2 := by
  have washed := h.washed
  cases good : d.status.signalGood with
  | true =>
    have drive : Transition d now .active _ := .drive washed.driving good
    have drive' : Transition d' now .active _ := .drive washed.driving' (washed.status ▸ good)
    have guarded := washed.guarded.transition drive
    have guarded' := washed.guarded'.transition drive'
    rw [drive.step_eq, drive'.step_eq]
    exact { h with washed := { washed with
      guarded
      guarded'
      driving := .inl (Status.phase_enter _ _)
      status := by rw [washed.status]
      ready := fun _ => washed.ready (.inl good)
      motors := fun full m => (washed.motors full m).obey .enable } }
  | false =>
    have brake : Transition d now .failsafe _ := .brake washed.driving good
    have brake' : Transition d' now .failsafe _ := .brake washed.driving' (washed.status ▸ good)
    have guarded := washed.guarded.transition brake
    have guarded' := washed.guarded'.transition brake'
    rw [brake.step_eq, brake'.step_eq]
    refine { h with washed := { washed with
      guarded
      guarded'
      driving := .inr (Status.phase_enter _ _)
      status := by rw [washed.status]
      ready := ?_
      motors := fun full m => (washed.motors full m).obey .disable } }
    rintro (signal | active)
    · cases good.symm.trans signal
    · cases (Status.phase_enter _ _).symm.trans active

lemma Abreast.order (h : Abreast k d d') {o : Order} (timer : o = .overflow ∨ ∃ m, o = .compare m) :
    Abreast k (d.order o) (d'.order o) :=
  { h with washed := { h.washed with
    guarded := h.washed.guarded.move (.interrupt timer)
    guarded' := h.washed.guarded'.move (.interrupt timer)
    motors := fun full m => (h.washed.motors full m).obey o } }

lemma Abreast.run_events (h : Abreast k d d') {widths : Axes UInt16}
    (narrow : ∀ c, widths.get c ≤ widestPulse) (r : Rest) :
    ∃ k', Abreast k' (d.run (r.events widths)) (d'.run (r.events widths)) := by
  cases r with
  | frame tick => exact ⟨k + 1, h.frame narrow tick⟩
  | watchdog => exact ⟨k, h.watchdog⟩
  | step now => exact ⟨k, h.step now⟩
  | overflow => exact ⟨k, h.order (.inl rfl)⟩
  | compare m => exact ⟨k, h.order (.inr ⟨m, rfl⟩)⟩

lemma Abreast.run (h : Abreast k d d') {os : List (Axes UInt16 × Rest)}
    (narrow : ∀ o ∈ os, ∀ c, o.1.get c ≤ widestPulse) :
    ∃ k', Abreast k' (d.run (os.flatMap fun o => o.2.events o.1))
      (d'.run (os.flatMap fun o => o.2.events o.1)) := by
  induction os generalizing d d' k with
  | nil => exact ⟨k, h⟩
  | cons o os ih =>
    obtain ⟨_, h'⟩ := h.run_events (narrow o List.mem_cons_self) o.2
    rw [List.flatMap_cons, run_append, run_append]
    exact ih h' fun o later => narrow o (List.mem_cons_of_mem _ later)

/-- The motors do not tell devices apart that are abreast. -/
lemma Washed.line_eq (h : Washed n d d') (m : Motor) (leg : Direction) :
    d'.motors.stage.line m leg = d.motors.stage.line m leg := by
  by_cases active : d.status.phase = .active
  · exact (h.motors (h.ready (.inr active)) m).stage.line_eq leg
  · rw [h.guarded.line_eq_false active, h.guarded'.line_eq_false (h.status ▸ active)]

/-- What a closing with a loss leaves behind. -/
lemma JustLost.inv (lost : d.JustLost) :
    d.Guarded ∧ d.acquisition = .start ∧ d.status.signalGood = false ∧ d.Driving ∧
      d.queue = .empty := by
  obtain ⟨version, transport, store, es, closing, driving, queue⟩ := lost
  have guarded := (guarded_boot version transport store).moves (moves_run _ es)
  generalize (boot version transport store).2.run es = b at closing guarded
  by_cases few : b.acquisition.count < fewestGoodPulses
  · rw [watchdog_of_few few] at closing
    cases closing
    exact ⟨guarded.move .sense, rfl, rfl, driving, queue⟩
  · rw [watchdog_of_enough few] at closing
    cases closing

/-- The first step takes the motors off, and devices that have lost their signal start abreast. -/
lemma JustLost.abreast (lost : d.JustLost) (lost' : d'.JustLost)
    (settings : d'.status.settings = d.status.settings)
    (mixer : d'.steering.mixer = d.steering.mixer) (now now' : UInt32) :
    Abreast 0 (d.step now).2 (d'.step now').2 := by
  obtain ⟨g, acquisition, bad, driving, queue⟩ := lost.inv
  obtain ⟨g', acquisition', bad', driving', queue'⟩ := lost'.inv
  have brake : Transition d now .failsafe _ := .brake driving bad
  have brake' : Transition d' now' .failsafe _ := .brake driving' bad'
  have guarded := g.transition brake
  have guarded' := g'.transition brake'
  have status : d'.status.enter .failsafe = d.status.enter .failsafe := by
    rw [Status.enter, Status.enter, Status.mk.injEq]
    exact ⟨rfl, bad'.trans bad.symm, (g'.driving driving').2.trans (g.driving driving).2.symm, settings⟩
  rw [brake.step_eq, brake'.step_eq]
  refine ⟨⟨guarded, guarded', .inr (Status.phase_enter _ _), status, mixer,
    fun c => ?_, ?_, fun full => ?_⟩, acquisition'.trans acquisition.symm, ?_, queue, queue', ?_⟩
  · rw [Axes.get_both]
    exact Window.alike_zero _ _
  · rintro (signal | active)
    · cases bad.symm.trans signal
    · cases (Status.phase_enter _ _).symm.trans active
  · -- no sample is common yet, so nothing is said of the motors
    cases full .ch1
  · rw [acquisition]
    rfl
  · rw [acquisition]
    exact Nat.le_refl 0

/-- Two devices with the same settings and the same calibration have just lost their signal, with any
averages and commands. Both make a step, and then the same happens to both: frames, ends of windows,
steps and interrupts, each given with the pulse widths of the sticks at the time, which carry samples.
At every point, also amid a frame, they are in the same phase and their motors have the same levels
on all legs, and in the active phase they have the same commands. -/
theorem recovery_memoryless {d d' : BenchDevice} (lost : d.JustLost) (lost' : d'.JustLost)
    (settings : d'.status.settings = d.status.settings)
    (mixer : d'.steering.mixer = d.steering.mixer) (now now' : UInt32)
    (os : List (Axes UInt16 × Rest)) (narrow : ∀ o ∈ os, ∀ c, o.1.get c ≤ widestPulse)
    (before : List Event) (begun : before <+: os.flatMap fun o => o.2.events o.1) :
    let e := (d.step now).2.run before
    let e' := (d'.step now').2.run before
    e'.status.phase = e.status.phase ∧
      (∀ m leg, e'.motors.stage.line m leg = e.motors.stage.line m leg) ∧
      (e.status.phase = .active → e'.motors.latch.commands = e.motors.latch.commands) := by
  intro e e'
  obtain ⟨whole, edges, first, rfl, only⟩ :=
    exists_whole_of_prefix (fun o : Axes UInt16 × Rest => o.2.events_eq o.1) begun
  obtain ⟨k, abreast⟩ := (lost.abreast lost' settings mixer now now').run
    fun o member => narrow o (first.subset member)
  -- the edges of the frame that has begun do not concern the motors
  obtain ⟨acquisition, queue, amid⟩ := run_of_edges ((d.step now).2.run _) only
  obtain ⟨acquisition', queue', amid'⟩ := run_of_edges ((d'.step now').2.run _) only
  have washed : Washed (.both k) e e' := by
    have sensed := abreast.washed.sense acquisition acquisition' queue queue'
    rw [← amid, ← amid', ← run_append, ← run_append] at sensed
    exact sensed
  refine ⟨congrArg Status.phase washed.status, washed.line_eq, fun active => ?_⟩
  have agree := washed.motors (washed.ready (.inr active))
  rw [Sides.mk.injEq]
  exact ⟨(agree .left).command, (agree .right).command⟩

/-- One device lost its signal while it was active, the other one had lost it before, and different
sticks were seen last. Ten frames later the left-hand motor of both is driven by the same command. -/
theorem recovery_memoryless_frames :
    let d := (unset.run (launch ++ [.drain, .pulse ⟨.ch1, 250, 0⟩])).watchdog.2
    let d' := (unset.run (launch ++ [.drain, .watchdog, .step 2, .pulse ⟨.ch2, 500, 0⟩])).watchdog.2
    let rests : List Rest := List.replicate 10 (.frame 65000) ++ [.watchdog, .step 4, .compare .left]
    let os : List (Axes UInt16 × Rest) := rests.map (⟨500, 375⟩, ·)
    let e := (d.step 3).2.run (os.flatMap fun o => o.2.events o.1)
    let e' := (d'.step 3).2.run (os.flatMap fun o => o.2.events o.1)
    d.steering.filters ≠ d'.steering.filters ∧ d.motors.latch.commands ≠ d'.motors.latch.commands ∧
      e.motors.stage.line .left .forward = true ∧ e'.motors.stage.line .left .forward = true ∧
      e'.motors.latch.commands = e.motors.latch.commands := by
  intro d d' rests os e e'
  have just {es : List Event} (closing : (unset.run es).watchdog.1 = .lost)
      (driving : (unset.run es).watchdog.2.Driving) (queue : (unset.run es).queue = .empty) :
      (unset.run es).watchdog.2.JustLost :=
    ⟨.mixer, .empty, .holding Settings.erasedBlock, es, Prod.ext closing rfl, driving, queue⟩
  have lost : d.JustLost := just (by decide +kernel) (.inl (by decide +kernel)) (by decide +kernel)
  have lost' : d'.JustLost := just (by decide +kernel) (.inr (by decide +kernel)) (by decide +kernel)
  have accepted : ∀ c, (Axes.mk 500 375 : Axes UInt16).get c ≤ widestPulse := by
    rintro (_ | _) <;> decide
  have narrow : ∀ o ∈ os, ∀ c, o.1.get c ≤ widestPulse := by
    intro o member
    obtain ⟨r, -, rfl⟩ := List.mem_map.1 member
    exact accepted
  obtain ⟨-, lines, commands⟩ := recovery_memoryless lost lost' (by decide +kernel)
    (by decide +kernel) 3 3 os narrow _ List.prefix_rfl
  have high : e.motors.stage.line .left .forward = true := by decide +kernel
  exact ⟨by decide +kernel, by decide +kernel, high, (lines .left .forward).trans high,
    commands (by decide +kernel)⟩

end Device

end SpeedController
