import SpeedController.Device.Bench
import SpeedController.Proofs.Device.Guard
import SpeedController.Proofs.Mixing.Neutral
import SpeedController.Proofs.Receiver.Average

/-!
# Resting sticks

A receiver whose sticks are left alone sends frames of the same two pulse widths. The watchdog needs
ten of them to see a signal, and four settle the averages, so whatever is calibrated are the resting
positions (`Resting`), and in tank mode no duty is ever mixed. `AtRest` says this of a device between
two frames; every occurrence keeps it (`AtRest.run_events`), and amid a frame the motors have not been
told anything yet (`exists_whole_of_prefix`). So no leg is ever high (`resting_sticks_off`).
-/

namespace SpeedController

open Link Mixing Power Receiver
open Settings (Store RamStore)

/-- What happens to a device whose sticks are left alone: a frame that begins at a tick, the end of a
watchdog window, a step of the supervisor or an interrupt of the motor timer. -/
inductive Rest where
  | frame (tick : UInt16)
  | watchdog
  | step (now : UInt32)
  | overflow
  | compare (motor : Motor)
  deriving DecidableEq, Repr

/-- The events of an occurrence. A frame is a pulse on either channel, taken off the queue at once. -/
def Rest.events (widths : Axes UInt16) : Rest → List Event
  | .frame tick => [.edge .ch1 tick, .edge .ch1 (tick + widths.ch1),
      .edge .ch2 tick, .edge .ch2 (tick + widths.ch2), .drain]
  | .watchdog => [.watchdog]
  | .step now => [.step now]
  | .overflow => [.overflow]
  | .compare motor => [.compare motor]

/-- Only the last event of an occurrence is not an edge. -/
lemma Rest.events_eq (widths : Axes UInt16) (r : Rest) :
    ∃ edges last, r.events widths = edges ++ [last] ∧
      ∀ e ∈ edges, ∃ channel now, e = .edge channel now := by
  cases r with
  | frame tick =>
    refine ⟨[.edge .ch1 tick, .edge .ch1 (tick + widths.ch1),
      .edge .ch2 tick, .edge .ch2 (tick + widths.ch2)], .drain, rfl, ?_⟩
    simp
  | watchdog | step | overflow | compare => exact ⟨[], _, rfl, by simp⟩

/-- A frame of the bench is one of these. -/
lemma Bench.frame_device (b : Bench) (widths : Axes UInt16) :
    (b.frame widths).2.device = b.device.run (Rest.events widths (.frame b.clock)) := by
  unfold Bench.frame Bench.sendPulse
  rfl

/-- The samples of sticks that are left alone. A pulse without a sample leaves the average centred. -/
def restingSamples (widths : Axes UInt16) : Axes UInt16 :=
  widths.map fun width => (sampleOfWidth? width).getD stickCentre

namespace Device

/-- What the sticks have done to a device after `n` pulses on either channel. -/
structure Resting (widths : Axes UInt16) (n : Axes Nat) (d : BenchDevice) : Prop where
  untouched : ∀ channel, sampleOfWidth? (widths.get channel) = none →
    d.steering.filters.get channel = .filled stickCentre
  settled : ∀ channel sample, sampleOfWidth? (widths.get channel) = some sample →
    (d.steering.filters.get channel).Settled sample (n.get channel)
  ready : d.status.signalGood = true ∨ d.status.calibrationDue = true ∨
    d.steering.mixer.calibration.isSome = true → ∀ channel, filterLength ≤ n.get channel
  calibration : ∀ c, d.steering.mixer.calibration = some c →
    ∃ travel, c = .take (restingSamples widths) travel
  tank : d.status.settings.mode = .tank
  silent : d.transport.incoming.entries = []
  unhosted : d.status.phase ≠ .config
  braked : ∀ m, (d.motors.latch.commands.get m).duty = 0

variable {widths : Axes UInt16} {n : Axes Nat} {d : BenchDevice}

/-- Once enough pulses have come, the averages are the samples of the sticks. -/
lemma Resting.samples_eq (h : d.Resting widths n) (enough : ∀ channel, filterLength ≤ n.get channel) :
    d.steering.samples = restingSamples widths := by
  refine Axes.eq_of_get fun channel => ?_
  rw [Steering.samples, restingSamples, Axes.get_map, Axes.get_map]
  cases sampled : sampleOfWidth? (widths.get channel) with
  | none =>
    rw [h.untouched channel sampled]
    have settled := Window.settled_filled (n := filterLength) stickCentre filterLength
    exact settled.mean_eq (Nat.le_refl _) (by decide) (by decide)
  | some sample =>
    exact (h.settled channel sample sampled).mean_eq (enough channel) (by decide) (by decide)

/-- A control update calibrates on the samples of the sticks, or mixes commands without a duty. -/
lemma Resting.update (h : d.Resting widths n) : d.update.2.Resting widths n := by
  cases due : d.status.calibrationDue with
  | true =>
    -- a calibration is due only once the averages have settled
    have enough := h.ready (.inr (.inl due))
    have samples := h.samples_eq enough
    rw [update_of_due due]
    refine { h with ready := fun _ => enough, calibration := ?_ }
    rintro c ⟨rfl⟩
    exact ⟨d.status.settings.travel, by rw [samples]⟩
  | false =>
    -- the averages are still where they were calibrated
    have rest : ∀ c, d.steering.mixer.calibration = some c →
        ∃ travel, c = .take d.steering.samples travel := by
      intro c calibrated
      rw [h.samples_eq (h.ready (.inr (.inr (by rw [calibrated]; rfl))))]
      exact h.calibration c calibrated
    rw [update_of_calm due]
    exact { h with braked := Mixer.duty_mix rest h.tank }

lemma le_get_set_succ (n : Axes Nat) (channel channel' : Channel) :
    n.get channel' ≤ (n.set channel (n.get channel + 1)).get channel' := by
  by_cases same : channel' = channel
  · subst same
    rw [Axes.get_set_self]
    exact Nat.le_succ _
  · exact Nat.le_of_eq (Axes.get_set_of_ne _ _ same).symm

/-- A pulse without a sample leaves the averages alone. -/
lemma Resting.skip {channel : Channel} (h : d.Resting widths n)
    (unsampled : sampleOfWidth? (widths.get channel) = none) :
    d.Resting widths (n.set channel (n.get channel + 1)) := by
  refine { h with settled := ?_, ready := fun good channel' => ?_ }
  · intro channel' sample sampled
    have other : channel' ≠ channel := by
      rintro rfl
      rw [unsampled] at sampled
      cases sampled
    rw [Axes.get_set_of_ne _ _ other]
    exact h.settled channel' sample sampled
  · exact Nat.le_trans (h.ready good channel') (le_get_set_succ n channel channel')

/-- A sample of a stick settles its average. -/
lemma Resting.push {channel : Channel} {sample : UInt16} (h : d.Resting widths n)
    (sampled : sampleOfWidth? (widths.get channel) = some sample) :
    Resting widths (n.set channel (n.get channel + 1))
      { d with steering := d.steering.push channel sample } := by
  have filters : (d.steering.push channel sample).filters =
      d.steering.filters.set channel ((d.steering.filters.get channel).push sample) := rfl
  refine { h with untouched := ?_, settled := ?_, ready := fun good channel' => ?_ }
  · intro channel' unsampled
    have other : channel' ≠ channel := by
      rintro rfl
      rw [sampled] at unsampled
      cases unsampled
    rw [filters, Axes.get_set_of_ne _ _ other]
    exact h.untouched channel' unsampled
  · intro channel' sample' sampled'
    rw [filters]
    by_cases same : channel' = channel
    · subst same
      obtain rfl : sample = sample' := Option.some.inj (sampled.symm.trans sampled')
      rw [Axes.get_set_self, Axes.get_set_self]
      exact (h.settled channel' sample sampled).push
    · rw [Axes.get_set_of_ne _ _ same, Axes.get_set_of_ne _ _ same]
      exact h.settled channel' sample' sampled'
  · exact Nat.le_trans (h.ready good channel') (le_get_set_succ n channel channel')

/-- A pulse of a stick that is left alone keeps the device resting. -/
lemma Resting.onPulse (h : d.Resting widths n) (channel : Channel) (capturedAt : UInt16) :
    (d.onPulse ⟨channel, widths.get channel, capturedAt⟩).2.Resting widths
      (n.set channel (n.get channel + 1)) := by
  unfold Device.onPulse
  cases sampled : Pulse.sample? ⟨channel, widths.get channel, capturedAt⟩ with
  | none => exact h.skip sampled
  | some sample => exact (h.push sampled).update

/-- A device between two frames, after `k` of them. -/
structure AtRest (widths : Axes UInt16) (k : Nat) (d : BenchDevice) : Prop where
  resting : d.Resting widths (.both k)
  waiting : d.acquisition.detectors = .both .waiting
  queue : d.queue = .empty
  count : d.acquisition.count ≤ 2 * k

lemma atRest_boot {version : Version} {store : RamStore}
    (tank : (boot version Loopback.empty store).2.status.settings.mode = .tank) :
    (boot version Loopback.empty store).2.AtRest widths 0 where
  resting :=
    { untouched := fun channel _ => Axes.get_both _ channel
      settled := fun channel sample _ => by
        rw [Axes.get_both]
        exact Window.settled_zero _ _
      ready := by simp [boot, Status.boot, Steering.start, Mixer.uncalibrated]
      calibration := by simp [boot, Steering.start, Mixer.uncalibrated]
      tank
      silent := rfl
      unhosted := by simp [boot, Status.boot, Status.phase]
      braked := fun m => by
        have latched : (boot version Loopback.empty store).2.motors.latch.commands = .both .brake := rfl
        rw [latched, Sides.get_both]
        rfl }
  waiting := rfl
  queue := rfl
  count := Nat.le_refl 0

variable {k : Nat}

/-- The two edges of a pulse queue it. -/
lemma run_edges {d : BenchDevice} {queue : PulseQueue} {channel : Channel} {tick width : UInt16}
    (waiting : d.acquisition.detectors = .both .waiting)
    (room : d.queue.push? ⟨channel, width, tick + width⟩ = some queue) :
    d.run [.edge channel tick, .edge channel (tick + width)] =
      { d with acquisition.count := min (d.acquisition.count + 1) pulseCountLimit, queue } := by
  have elapsed : tick + width - tick = width := by
    rw [UInt16.add_comm, UInt16.add_sub_cancel]
  have idle : d.acquisition.detectors.get channel = .waiting := by rw [waiting, Axes.get_both]
  have rise : d.handle (.edge channel tick) =
      { d with acquisition.detectors := d.acquisition.detectors.set channel (.timing tick) } := by
    simp only [Device.handle, edge, Acquisition.edge, idle, EdgeDetector.edge]
  have restored : (d.acquisition.detectors.set channel (.timing tick)).set channel .waiting =
      d.acquisition.detectors := by
    rw [waiting]
    cases channel <;> rfl
  rw [run_cons, rise, run_cons, run_nil]
  simp only [Device.handle, edge, Acquisition.edge, Axes.get_set_self, EdgeDetector.edge, elapsed,
    room, restored]

/-- The edges of a frame queue two pulses, which the control loop takes into account. -/
lemma run_frame {d : BenchDevice} (waiting : d.acquisition.detectors = .both .waiting)
    (queue : d.queue = .empty) (widths : Axes UInt16) (tick : UInt16) :
    ∃ queue',
      d.run (Rest.events widths (.frame tick)) =
        { (({ d with
                acquisition.count := min (d.acquisition.count + 2) pulseCountLimit
                queue := queue' }.onPulse
              ⟨.ch1, widths.get .ch1, tick + widths.ch1⟩).2.onPulse
            ⟨.ch2, widths.get .ch2, tick + widths.ch2⟩).2 with queue := .empty } := by
  let first : Pulse := ⟨.ch1, widths.get .ch1, tick + widths.get .ch1⟩
  let second : Pulse := ⟨.ch2, widths.get .ch2, tick + widths.get .ch2⟩
  obtain ⟨queue₁, room₁, entries₁⟩ := Fifo.exists_push? (q := d.queue) first (by rw [queue]; decide)
  have one : queue₁.length < pulseSlots - 1 := by
    rw [Fifo.length, entries₁, queue]
    exact (by decide : 1 < pulseSlots - 1)
  obtain ⟨queue₂, room₂, entries₂⟩ := Fifo.exists_push? second one
  rw [entries₁, queue] at entries₂
  have events : Rest.events widths (.frame tick) =
      [.edge .ch1 tick, .edge .ch1 (tick + widths.get .ch1)] ++
        ([.edge .ch2 tick, .edge .ch2 (tick + widths.get .ch2)] ++ [.drain]) := rfl
  let d₁ : BenchDevice := { d with
    acquisition.count := min (d.acquisition.count + 1) pulseCountLimit
    queue := queue₁ }
  have waiting₁ : d₁.acquisition.detectors = .both .waiting := waiting
  have edges₁ : d.run [.edge .ch1 tick, .edge .ch1 (tick + widths.get .ch1)] = d₁ :=
    run_edges waiting room₁
  have counted : min (d₁.acquisition.count + 1) pulseCountLimit =
      min (d.acquisition.count + 2) pulseCountLimit := by
    show min (min (d.acquisition.count + 1) pulseCountLimit + 1) pulseCountLimit = _
    omega
  refine ⟨queue₂, ?_⟩
  rw [events, run_append, edges₁, run_append, run_edges waiting₁ room₂, counted, run_cons, run_nil,
    Device.handle, drain, entries₂]
  rfl

/-- A frame settles both averages by one more sample. -/
lemma AtRest.frame (h : d.AtRest widths k) (tick : UInt16) :
    (d.run (Rest.events widths (.frame tick))).AtRest widths (k + 1) := by
  obtain ⟨queue, run⟩ := run_frame h.waiting h.queue widths tick
  have resting : Resting widths (.both k) ({ d with
      acquisition.count := min (d.acquisition.count + 2) pulseCountLimit
      queue } : BenchDevice) := { h.resting with }
  have pulses := (resting.onPulse .ch1 (tick + widths.ch1)).onPulse .ch2 (tick + widths.ch2)
  rw [run]
  refine ⟨{ pulses with }, ?_, rfl, ?_⟩
  · rw [acquisition_onPulse, acquisition_onPulse]
    exact h.waiting
  · rw [acquisition_onPulse, acquisition_onPulse]
    have := h.count
    show min (d.acquisition.count + 2) pulseCountLimit ≤ 2 * (k + 1)
    omega

/-- The watchdog sees a signal only after ten frames. -/
lemma AtRest.watchdog (h : d.AtRest widths k) : d.watchdog.2.AtRest widths k := by
  have resting := h.resting
  by_cases few : d.acquisition.count < fewestGoodPulses
  · rw [watchdog_of_few few]
    refine ⟨{ resting with ready := ?_ }, rfl, h.queue, Nat.zero_le _⟩
    rintro (good | rest)
    · cases good
    · exact resting.ready (.inr rest)
  · rw [watchdog_of_enough few]
    refine ⟨{ resting with ready := fun _ channel => ?_ }, h.waiting, h.queue, Nat.zero_le _⟩
    -- twenty pulses are ten frames
    have := h.count
    rw [Axes.get_both]
    simp only [fewestGoodPulses, filterLength] at few ⊢
    omega

/-- A step asks for a calibration only if there is a signal, and gives no command. -/
lemma AtRest.step (h : d.AtRest widths k) (now : UInt32) : (d.step now).2.AtRest widths k := by
  have resting := h.resting
  have transition := step_transition d now
  generalize (d.step now).1 = p at transition
  generalize (d.step now).2 = d' at transition ⊢
  have braked : ∀ m, ((Sides.both Command.brake).get m).duty = 0 := by
    intro m
    rw [Sides.get_both]
    rfl
  cases transition with
  | ask start _ good =>
    exact { h with resting := { resting with ready := fun _ => resting.ready (.inl good) } }
  | greet _ _ _ data =>
    have waits : (!d.transport.incoming.entries.isEmpty) = true := congrArg Prod.fst data
    rw [resting.silent] at waits
    cases waits
  | idle _ _ _ data =>
    obtain rfl : d.transport = _ := congrArg Prod.snd data
    exact h
  | withdraw =>
    refine { h with resting := { resting with ready := ?_ } }
    rintro (good | due | calibrated)
    · exact resting.ready (.inl good)
    · cases due
    · exact resting.ready (.inr (.inr calibrated))
  | wait => exact h
  | launch | drive => exact { h with resting := { resting with unhosted := by simp } }
  | brake | halt =>
    exact { h with resting := { resting with unhosted := by simp, braked } }
  | answer config | listen config => exact absurd config resting.unhosted

/-- Whatever happens leaves the device at rest. -/
lemma AtRest.run_events (h : d.AtRest widths k) (r : Rest) :
    ∃ k', (d.run (r.events widths)).AtRest widths k' := by
  cases r with
  | frame tick => exact ⟨k + 1, h.frame tick⟩
  | watchdog => exact ⟨k, h.watchdog⟩
  | step now => exact ⟨k, h.step now⟩
  | overflow | compare => exact ⟨k, { h with resting := { h.resting with } }⟩

/-- Edges concern the receiver only. -/
lemma run_of_edges (d : BenchDevice) {es : List Event}
    (edges : ∀ e ∈ es, ∃ channel now, e = .edge channel now) :
    ∃ acquisition queue, d.run es = { d with acquisition, queue } := by
  induction es generalizing d with
  | nil => exact ⟨d.acquisition, d.queue, rfl⟩
  | cons e es ih =>
    obtain ⟨channel, now, rfl⟩ := edges e List.mem_cons_self
    obtain ⟨queue, edge⟩ := d.edge_frame channel now
    obtain ⟨acquisition, queue', run⟩ :=
      ih (d.edge channel now).2 fun e later => edges e (List.mem_cons_of_mem _ later)
    refine ⟨acquisition, queue', ?_⟩
    rw [run_cons, Device.handle, run, edge]

/-- A beginning of a sequence of occurrences, each of which ends with the only event that is not an
edge, is some of them and edges behind. -/
lemma exists_whole_of_prefix {α : Type} {events : α → List Event}
    (shape : ∀ a, ∃ edges last, events a = edges ++ [last] ∧
      ∀ e ∈ edges, ∃ channel now, e = .edge channel now)
    {as : List α} {before : List Event} (begun : before <+: as.flatMap events) :
    ∃ whole edges, whole <+: as ∧ before = whole.flatMap events ++ edges ∧
      ∀ e ∈ edges, ∃ channel now, e = .edge channel now := by
  induction as generalizing before with
  | nil => exact ⟨[], [], List.prefix_rfl, List.prefix_nil.1 begun, by simp⟩
  | cons a as ih =>
    -- the beginning ends amid the first occurrence, or goes beyond it
    rw [List.flatMap_cons] at begun
    rcases List.prefix_or_prefix_of_prefix begun (List.prefix_append _ _) with within | ⟨later, rfl⟩
    · obtain ⟨edges, last, split, only⟩ := shape a
      rw [split, List.prefix_concat_iff, ← split] at within
      rcases within with rfl | within
      · exact ⟨[a], [], List.prefix_append [a] as, by simp, by simp⟩
      · exact ⟨[], before, List.nil_prefix, rfl, fun e member => only e (within.subset member)⟩
    · obtain ⟨whole, edges, first, rfl, only⟩ := ih ((List.prefix_append_right_inj _).1 begun)
      refine ⟨a :: whole, edges, (List.prefix_cons_inj a).2 first, ?_, only⟩
      rw [List.flatMap_cons, List.append_assoc]

lemma AtRest.run (h : d.AtRest widths k) (rests : List Rest) :
    ∃ k', (d.run (rests.flatMap (Rest.events widths))).AtRest widths k' := by
  induction rests generalizing d k with
  | nil => exact ⟨k, h⟩
  | cons r rests ih =>
    obtain ⟨_, h'⟩ := h.run_events r
    rw [List.flatMap_cons, run_append]
    exact ih h'

/-- No duty is ever latched. -/
lemma AtRest.duty_eq_zero (h : d.AtRest widths k) {rests : List Rest} {before : List Event}
    (begun : before <+: rests.flatMap (Rest.events widths)) (m : Motor) :
    ((d.run before).motors.latch.commands.get m).duty = 0 := by
  obtain ⟨whole, edges, -, rfl, only⟩ := exists_whole_of_prefix (Rest.events_eq widths) begun
  obtain ⟨_, rest⟩ := h.run whole
  obtain ⟨acquisition, queue, amid⟩ := run_of_edges (d.run (whole.flatMap (Rest.events widths))) only
  rw [run_append, amid]
  exact rest.resting.braked m

/-- A device in tank mode whose sticks are left alone, and to which no host speaks, has no duty and
no high leg in any state of any run from power-up, whatever pulse widths the sticks give. -/
theorem resting_sticks_off (version : Version) (store : RamStore) (widths : Axes UInt16)
    (rests : List Rest) (before : List Event)
    (tank : (boot version Loopback.empty store).2.status.settings.mode = .tank)
    (begun : before <+: rests.flatMap (Rest.events widths)) :
    let d := (boot version Loopback.empty store).2.run before
    (∀ m, (d.motors.latch.commands.get m).duty = 0) ∧ ∀ m leg, d.motors.stage.line m leg = false := by
  intro d
  have off (m : Motor) : (d.motors.latch.commands.get m).duty = 0 := (atRest_boot tank).duty_eq_zero begun m
  have guarded : d.Guarded :=
    (guarded_boot version Loopback.empty store).moves (moves_run _ before)
  refine ⟨off, fun m leg => Bool.eq_false_iff.2 fun high => ?_⟩
  exact (guarded.sound.driven m leg high).2 (off m)

/-- The sticks rest off centre, one of them below its stop, on a device that launches. -/
theorem resting_sticks_off_launch :
    let rests : List Rest := List.replicate 10 (.frame 65000) ++
      [.watchdog, .step 0, .frame 7, .step 1, .frame 60000, .overflow, .compare .left]
    let d := unset.run (rests.flatMap (Rest.events ⟨400, 100⟩))
    d.status.phase = .active ∧ d.steering.mixer.calibration.isSome = true ∧
      unset.status.settings.mode = .tank ∧ ∀ m leg, d.motors.stage.line m leg = false := by
  intro rests d
  have tank : unset.status.settings.mode = .tank := by decide +kernel
  have begun := List.prefix_rfl (l := rests.flatMap (Rest.events ⟨400, 100⟩))
  exact ⟨by decide +kernel, by decide +kernel, tank,
    (resting_sticks_off .mixer (.holding Settings.erasedBlock) _ rests _ tank begun).2⟩

end Device

end SpeedController
