import Mathlib.Data.List.Forall2
import SpeedController.Proofs.Device.Sensing
import SpeedController.Proofs.Mixing.Tank
import SpeedController.Proofs.Power.Agreement

/-!
# Isolation of the channels

In tank mode each channel drives the motor of its side. Two runs that differ in the sticks of the
other channel only are `Twin`s: they agree on the average and the calibration of the channel
(`Steering.Agree`), on its motor (`MotorDriver.Agree`) and on everything that is not a matter of the
sticks. A step reads neither the averages nor the motors (`Transition.aside`), and a pulse is an
update in both runs or in neither, so twins stay twins (`Twin.react`, `Twin.reactAll`) as long as the
pulses that wait in both runs are alike (`isolated_of_queues`). They are if the edges of the channel
come at the same times: then its pulses are the same, and an edge of either channel completes a pulse
in both runs or in neither (`Paired.edge`). The main statement is `channels_isolated`.
-/

namespace SpeedController

open Link Mixing Power Receiver
open Settings (RamStore Store)

namespace Receiver

/-- The widths of the pulses are the same, unless they belong to another channel than `c` and both
carry a sample. -/
structure Pulse.Alike (c : Channel) (p p' : Pulse) : Prop where
  channel : p'.channel = p.channel
  width : p'.width = p.width ∨ p.channel ≠ c ∧ p.width ≤ widestPulse ∧ p'.width ≤ widestPulse

instance (c : Channel) (p p' : Pulse) : Decidable (p.Alike c p') :=
  decidable_of_iff
    (p'.channel = p.channel ∧
      (p'.width = p.width ∨ p.channel ≠ c ∧ p.width ≤ widestPulse ∧ p'.width ≤ widestPulse))
    ⟨fun h => ⟨h.1, h.2⟩, fun h => ⟨h.channel, h.width⟩⟩

/-- The detectors wait for edges of the same kind, and as many pulses have been counted. -/
structure Acquisition.Alike (a a' : Acquisition) : Prop where
  armed : ∀ channel, (a'.detectors.get channel).armed = (a.detectors.get channel).armed
  count : a'.count = a.count

/-- Either both pulses carry a sample or neither does, and pulses of `c` carry the same one. -/
lemma Pulse.Alike.sample? {c : Channel} {p p' : Pulse} (h : p.Alike c p') :
    (p.sample? = none ∧ p'.sample? = none) ∨
      ∃ sample sample', p.sample? = some sample ∧ p'.sample? = some sample' ∧
        (p.channel = c → sample' = sample) := by
  rcases h.width with same | ⟨other, narrow, narrow'⟩
  · have same : p'.sample? = p.sample? := congrArg sampleOfWidth? same
    rw [same]
    cases p.sample? with
    | none => exact .inl ⟨rfl, rfl⟩
    | some sample => exact .inr ⟨sample, sample, rfl, rfl, fun _ => rfl⟩
  · obtain ⟨sample, sampled⟩ := exists_sampleOfWidth? narrow
    obtain ⟨sample', sampled'⟩ := exists_sampleOfWidth? narrow'
    exact .inr ⟨sample, sample', sampled, sampled', fun own => absurd own other⟩

namespace Acquisition

variable {a a' : Acquisition}

/-- Edges of a channel leave both detectors with the same kind of edge to come. -/
lemma Alike.edge (h : a.Alike a') (channel : Channel) (now now' : UInt16) :
    (a.edge channel now).2.Alike (a'.edge channel now').2 := by
  have armed := h.armed channel
  -- the detector of the channel changes, and the other one stays as it is
  have after {d d' : EdgeDetector} (same : d'.armed = d.armed) (other : Channel) :
      ((a'.detectors.set channel d').get other).armed =
        ((a.detectors.set channel d).get other).armed := by
    by_cases own : other = channel
    · subst own
      rw [Axes.get_set_self, Axes.get_set_self, same]
    · rw [Axes.get_set_of_ne _ _ own, Axes.get_set_of_ne _ _ own, h.armed other]
  unfold Acquisition.edge
  cases state : a.detectors.get channel with
  | waiting =>
    cases state' : a'.detectors.get channel with
    | waiting => exact ⟨after rfl, h.count⟩
    | timing rise => simp [state, state', EdgeDetector.armed] at armed
  | timing rise =>
    cases state' : a'.detectors.get channel with
    | waiting => simp [state, state', EdgeDetector.armed] at armed
    | timing rise' => exact ⟨after rfl, by simp [EdgeDetector.edge, h.count]⟩

lemma Alike.closeWindow (h : a.Alike a') :
    a'.closeWindow.1 = a.closeWindow.1 ∧ a.closeWindow.2.Alike a'.closeWindow.2 := by
  unfold Acquisition.closeWindow
  rw [h.count]
  split
  · exact ⟨rfl, fun _ => rfl, rfl⟩
  · exact ⟨rfl, h.armed, rfl⟩

lemma detector_edge_of_ne {c channel : Channel} (a : Acquisition) (other : c ≠ channel)
    (now : UInt16) : (a.edge channel now).2.detectors.get c = a.detectors.get c := by
  unfold Acquisition.edge
  cases a.detectors.get channel <;> exact Axes.get_set_of_ne _ _ other

/-- What a detector is after an edge depends on nothing but what it was. -/
lemma detector_edge_congr {c : Channel} (same : a'.detectors.get c = a.detectors.get c)
    (now : UInt16) :
    (a'.edge c now).2.detectors.get c = (a.edge c now).2.detectors.get c := by
  unfold Acquisition.edge
  rw [same]
  cases a.detectors.get c <;> exact (Axes.get_set_self ..).trans (Axes.get_set_self ..).symm

end Acquisition

end Receiver

namespace Steering

/-- The average of the channel is the same, and so are its resting position and its lines, if they
have been calibrated. -/
structure Agree (c : Channel) (s s' : Steering) : Prop where
  filter : s'.filters.get c = s.filters.get c
  calibration : s'.mixer.calibration.map (fun k => (k.neutral.get c, k.lines.get c)) =
    s.mixer.calibration.map fun k => (k.neutral.get c, k.lines.get c)

variable {c : Channel} {s s' : Steering}

lemma Agree.push (h : s.Agree c s') {channel : Channel} {sample sample' : UInt16}
    (same : channel = c → sample' = sample) :
    (s.push channel sample).Agree c (s'.push channel sample') := by
  refine ⟨?_, h.calibration⟩
  rw [Steering.push, Steering.push]
  by_cases own : c = channel
  · subst own
    rw [Axes.get_set_self, Axes.get_set_self, h.filter, same rfl]
  · rw [Axes.get_set_of_ne _ _ own, Axes.get_set_of_ne _ _ own, h.filter]

lemma Agree.calibrate (h : s.Agree c s') (settings : Settings) :
    (s.calibrate settings).Agree c (s'.calibrate settings) := by
  refine ⟨h.filter, ?_⟩
  cases c with
  | ch1 =>
    have filter : s'.filters.ch1 = s.filters.ch1 := h.filter
    simp [Steering.calibrate, Mixer.calibrate, Calibration.take, samples, Axes.get, Axes.map, filter]
  | ch2 =>
    have filter : s'.filters.ch2 = s.filters.ch2 := h.filter
    simp [Steering.calibrate, Mixer.calibrate, Calibration.take, samples, Axes.get, Axes.map, filter]

/-- In tank mode a motor gets the command of its channel. -/
lemma get_commands {settings : Settings} (tank : settings.mode = .tank) (s : Steering)
    (c : Channel) :
    (s.commands settings).get c.motor =
      s.mixer.inForce.tankCommand c ((s.filters.get c).mean).toInt16 settings.deadzone := by
  rw [commands, Mixer.get_mix_of_tank tank, samples, Axes.get_map]

lemma Agree.get_commands (h : s.Agree c s') {settings : Settings} (tank : settings.mode = .tank) :
    (s'.commands settings).get c.motor = (s.commands settings).get c.motor := by
  have inForce : s'.mixer.inForce.neutral.get c = s.mixer.inForce.neutral.get c ∧
      s'.mixer.inForce.lines.get c = s.mixer.inForce.lines.get c := by
    -- either both are calibrated or both use the idle calibration
    have calibration := h.calibration
    unfold Mixer.inForce
    cases taken : s.mixer.calibration with
    | none =>
      rw [taken] at calibration
      rw [Option.map_eq_none_iff.1 calibration]
      exact ⟨rfl, rfl⟩
    | some k =>
      rw [taken] at calibration
      obtain ⟨k', taken', same⟩ := Option.map_eq_some_iff.1 calibration
      rw [taken']
      exact Prod.mk.inj same
  rw [Steering.get_commands tank, Steering.get_commands tank, h.filter, Calibration.tankCommand,
    Calibration.tankCommand, inForce.1, inForce.2]

end Steering

/-- Something done to a device: an event, or a new verdict on the signal. -/
inductive Stimulus where
  | event (e : Event)
  | signal (good : Bool)
  deriving DecidableEq, Repr

/-- The stimuli only differ in when an edge comes or in the pulse that is taken into account. -/
inductive Stimulus.Alike (c : Channel) : Stimulus → Stimulus → Prop where
  | same {s} : Alike c s s
  | edge {channel now now'} : Alike c (.event (.edge channel now)) (.event (.edge channel now'))
  | pulse {p p'} : p.Alike c p' → Alike c (.event (.pulse p)) (.event (.pulse p'))

namespace Device

section
variable {T S : Type}

lemma settings_onPulse (d : Device T S) (p : Pulse) :
    (d.onPulse p).2.status.settings = d.status.settings := by
  obtain ⟨due, steering, motors, frame⟩ := d.onPulse_frame p
  rw [frame]

variable [Transport T] [Store S]

/-- A step reads neither the receiver nor the motors, and it only touches the motors by orders. -/
lemma Transition.aside {d d' : Device T S} {now : UInt32} {p : Phase} (h : Transition d now p d') :
    ∃ orders : List Order, ∀ acquisition queue steering motors,
      Transition { d with acquisition, queue, steering, motors } now p
        { d' with acquisition, queue, steering, motors := motors.obeyAll orders } := by
  cases h with
  | ask start free good => exact ⟨[], fun _ _ _ _ => .ask start free good⟩
  | greet start free lost data => exact ⟨[], fun _ _ _ _ => .greet start free lost data⟩
  | idle start free lost data => exact ⟨[], fun _ _ _ _ => .idle start free lost data⟩
  | withdraw start waiting lost => exact ⟨[], fun _ _ _ _ => .withdraw start waiting lost⟩
  | wait start waiting good due => exact ⟨[], fun _ _ _ _ => .wait start waiting good due⟩
  | launch start waiting good due =>
    exact ⟨[.enable], fun _ _ _ _ => .launch start waiting good due⟩
  | drive driving good => exact ⟨[.enable], fun _ _ _ _ => .drive driving good⟩
  | brake driving lost => exact ⟨[.disable], fun _ _ _ _ => .brake driving lost⟩
  | answer config polled => exact ⟨[], fun _ _ _ _ => .answer config polled⟩
  | listen config polled => exact ⟨[], fun _ _ _ _ => .listen config polled⟩
  | halt fault => exact ⟨[.disable], fun _ _ _ _ => .halt fault⟩

end

/-- The device after a stimulus. -/
def react (d : BenchDevice) : Stimulus → BenchDevice
  | .event e => d.handle e
  | .signal good => { d with status.signalGood := good }

/-- The device after a sequence of stimuli. -/
def reactAll (d : BenchDevice) (ss : List Stimulus) : BenchDevice := ss.foldl react d

/-- What holds of two devices that were only told different things about the other channel. -/
structure Twin (c : Channel) (d d' : BenchDevice) : Prop where
  status : d'.status = d.status
  acquisition : d.acquisition.Alike d'.acquisition
  steering : d.steering.Agree c d'.steering
  supervisor : d'.supervisor = d.supervisor
  motors : d.motors.Agree c.motor d'.motors
  transport : d'.transport = d.transport
  store : d'.store = d.store

section
variable {c : Channel} {d d' : BenchDevice}

lemma twin_self (c : Channel) (d : BenchDevice) : Twin c d d :=
  ⟨rfl, ⟨fun _ => rfl, rfl⟩, ⟨rfl, rfl⟩, rfl, .refl _ _, rfl, rfl⟩

lemma Twin.edge (h : Twin c d d') (channel : Channel) (now now' : UInt16) :
    Twin c (d.edge channel now).2 (d'.edge channel now').2 := by
  obtain ⟨queue, edge⟩ := d.edge_frame channel now
  obtain ⟨queue', edge'⟩ := d'.edge_frame channel now'
  rw [edge, edge']
  exact { h with acquisition := h.acquisition.edge channel now now' }

lemma Twin.watchdog (h : Twin c d d') : Twin c d.watchdog.2 d'.watchdog.2 := by
  obtain ⟨signal, acquisition⟩ := h.acquisition.closeWindow
  refine { h with status := ?_, acquisition }
  simp only [Device.watchdog, signal, h.status]

/-- Twins calibrate together, and they mix the same command for the motor of the channel. -/
lemma Twin.update (h : Twin c d d') (tank : d.status.settings.mode = .tank) :
    Twin c d.update.2 d'.update.2 := by
  have due' := congrArg Status.calibrationDue h.status
  cases due : d.status.calibrationDue with
  | true =>
    rw [update_of_due due, update_of_due (due'.trans due), h.status]
    exact { h with status := rfl, steering := h.steering.calibrate d.status.settings }
  | false =>
    rw [update_of_calm due, update_of_calm (due'.trans due), h.status]
    exact { h with status := rfl, motors := h.motors.setBoth (h.steering.get_commands tank) }

/-- A pulse of either channel is an update of both twins or of neither. -/
lemma Twin.onPulse (h : Twin c d d') (tank : d.status.settings.mode = .tank) {p p' : Pulse}
    (alike : p.Alike c p') : Twin c (d.onPulse p).2 (d'.onPulse p').2 := by
  unfold Device.onPulse
  rcases alike.sample? with ⟨dropped, dropped'⟩ | ⟨sample, sample', sampled, sampled', same⟩
  · rw [dropped, dropped']
    exact h
  · rw [sampled, sampled', alike.channel]
    have pushed : Twin c { d with steering := d.steering.push p.channel sample }
        { d' with steering := d'.steering.push p.channel sample' } :=
      { h with steering := h.steering.push same }
    exact pushed.update tank

lemma Twin.onPulses (h : Twin c d d') (tank : d.status.settings.mode = .tank) {ps ps' : List Pulse}
    (alike : List.Forall₂ (Pulse.Alike c) ps ps') :
    Twin c (ps.foldl (fun d p => (d.onPulse p).2) d) (ps'.foldl (fun d p => (d.onPulse p).2) d') := by
  induction alike generalizing d d' with
  | nil => exact h
  | cons first _ ih =>
    apply ih (h.onPulse tank first)
    rw [settings_onPulse, tank]

/-- Twins make the same step. -/
lemma Twin.step (h : Twin c d d') (now : UInt32) : Twin c (d.step now).2 (d'.step now).2 := by
  -- the twins only differ in what a step does not read
  have same : d' = { d with
      acquisition := d'.acquisition
      queue := d'.queue
      steering := d'.steering
      motors := d'.motors } := by
    rw [← h.status, ← h.supervisor, ← h.transport, ← h.store]
  obtain ⟨orders, aside⟩ := (step_transition d now).aside
  have step := (aside d.acquisition d.queue d.steering d.motors).step_eq
  have step' := (aside d'.acquisition d'.queue d'.steering d'.motors).step_eq
  rw [← same] at step'
  rw [congrArg Prod.snd step, congrArg Prod.snd step']
  exact ⟨rfl, h.acquisition, h.steering, rfl, h.motors.obeyAll orders, rfl, rfl⟩

lemma Twin.react (h : Twin c d d') (tank : d.status.settings.mode = .tank)
    (queued : List.Forall₂ (Pulse.Alike c) d.queue.entries d'.queue.entries) {s s' : Stimulus}
    (alike : s.Alike c s') : Twin c (d.react s) (d'.react s') := by
  cases alike with
  | edge => exact h.edge _ _ _
  | pulse alike => exact h.onPulse tank alike
  | same =>
    cases s with
    | signal good =>
      refine { h with status := ?_ }
      simp only [Device.react, h.status]
    | event e =>
      cases e with
      | edge channel now => exact h.edge channel now now
      | watchdog => exact h.watchdog
      | drain => exact { h.onPulses tank queued with }
      | pulse p => exact h.onPulse tank ⟨rfl, .inl rfl⟩
      | update => exact h.update tank
      | step now => exact h.step now
      | overflow | compare => exact { h with motors := h.motors.obey _ }
      | receive bytes => exact { h with transport := by simp only [Device.react, handle, h.transport] }
      | collect => exact { h with transport := by simp only [Device.react, handle, h.transport] }
      | failWrites fail => exact { h with store := by simp only [Device.react, handle, h.store] }
      | failLoads fail => exact { h with store := by simp only [Device.react, handle, h.store] }

lemma Twin.reactAll (h : Twin c d d') {ss ss' : List Stimulus}
    (alike : List.Forall₂ (Stimulus.Alike c) ss ss')
    (tank : ∀ n < ss.length, (d.reactAll (ss.take n)).status.settings.mode = .tank)
    (queued : ∀ n < ss.length, List.Forall₂ (Pulse.Alike c)
      (d.reactAll (ss.take n)).queue.entries (d'.reactAll (ss'.take n)).queue.entries) (n : Nat) :
    Twin c (d.reactAll (ss.take n)) (d'.reactAll (ss'.take n)) := by
  induction alike generalizing d d' n with
  | nil =>
    rw [List.take_nil]
    exact h
  | @cons s s' ss ss' first _ ih =>
    cases n with
    | zero => exact h
    | succ n =>
      have next := h.react (tank 0 (Nat.succ_pos _)) (queued 0 (Nat.succ_pos _)) first
      exact ih next (fun n inside => tank (n + 1) (Nat.succ_lt_succ inside))
        (fun n inside => queued (n + 1) (Nat.succ_lt_succ inside)) n

end

/-- Two runs from power-up differ in nothing but when edges come and in which pulses are taken into
account, and what is queued or taken into account only differs in the widths of accepted pulses of
the channel other than `c`. As long as the live settings are in tank mode, both runs are in the same
phase at every point, with the same resting position of `c`, and the motor of `c` has the same
command, the same event and the same level on either leg. -/
theorem isolated_of_queues (version : Version) (transport : Loopback) (store : RamStore) (c : Channel)
    (ss ss' : List Stimulus) (alike : List.Forall₂ (Stimulus.Alike c) ss ss') :
    let boot := (boot version transport store).2
    (∀ n < ss.length, (boot.reactAll (ss.take n)).status.settings.mode = .tank) →
    (∀ n < ss.length, List.Forall₂ (Pulse.Alike c)
      (boot.reactAll (ss.take n)).queue.entries (boot.reactAll (ss'.take n)).queue.entries) →
    ∀ n,
      let d := boot.reactAll (ss.take n)
      let d' := boot.reactAll (ss'.take n)
      d'.status.phase = d.status.phase ∧
      d'.steering.mixer.calibration.map (·.neutral.get c) =
        d.steering.mixer.calibration.map (·.neutral.get c) ∧
      d'.motors.latch.commands.get c.motor = d.motors.latch.commands.get c.motor ∧
      d'.motors.stage.compares.get c.motor = d.motors.stage.compares.get c.motor ∧
      ∀ leg, d'.motors.stage.line c.motor leg = d.motors.stage.line c.motor leg := by
  intro boot tank queued n d d'
  have twin : Twin c d d' := (twin_self c boot).reactAll alike tank queued n
  refine ⟨congrArg Status.phase twin.status, ?_, twin.motors.command, twin.motors.stage.event,
    twin.motors.stage.line_eq⟩
  have neutral := congrArg (Option.map Prod.fst) twin.steering.calibration
  rw [Option.map_map, Option.map_map] at neutral
  exact neutral

/-- What is asked of two edges: those of `c` come at the same time, and if those of the other channel
queue pulses, these are equally wide or both carry a sample. Nothing is asked of other stimuli. -/
def CaptureAlike (c : Channel) (d d' : BenchDevice) : Stimulus → Stimulus → Prop
  | .event (.edge channel now), .event (.edge channel' now') =>
    if channel = c then now' = now
    else ∀ p ∈ d.accepted (.edge channel now), ∀ p' ∈ d'.accepted (.edge channel' now'),
      p'.width = p.width ∨ p.width ≤ widestPulse ∧ p'.width ≤ widestPulse
  | _, _ => True

/-- What is asked of the edges in two runs. -/
def CapturesAlike (c : Channel) (d d' : BenchDevice) : List Stimulus → List Stimulus → Prop
  | s :: ss, s' :: ss' =>
    CaptureAlike c d d' s s' ∧ CapturesAlike c (d.react s) (d'.react s') ss ss'
  | _, _ => True

instance decidableCaptureAlike (c : Channel) (d d' : BenchDevice) (s s' : Stimulus) :
    Decidable (CaptureAlike c d d' s s') := by
  unfold CaptureAlike
  split <;> infer_instance

instance decidableCapturesAlike (c : Channel) (d d' : BenchDevice) (ss ss' : List Stimulus) :
    Decidable (CapturesAlike c d d' ss ss') :=
  match ss, ss' with
  | s :: ss, s' :: ss' =>
    have := decidableCapturesAlike c (d.react s) (d'.react s') ss ss'
    inferInstanceAs (Decidable (_ ∧ _))
  | [], _ | _ :: _, [] => .isTrue (by simp only [CapturesAlike])

/-- The sensors of two devices wait for the same edges, that of `c` since the same time, and alike
pulses are queued. -/
structure Paired (c : Channel) (d d' : BenchDevice) : Prop where
  acquisition : d.acquisition.Alike d'.acquisition
  detector : d'.acquisition.detectors.get c = d.acquisition.detectors.get c
  queue : List.Forall₂ (Pulse.Alike c) d.queue.entries d'.queue.entries

section
variable {c : Channel} {d d' e e' : BenchDevice} {ss ss' : List Stimulus}

lemma paired_self (c : Channel) (d : BenchDevice) : Paired c d d :=
  ⟨⟨fun _ => rfl, rfl⟩, rfl, List.forall₂_same.2 fun _ _ => ⟨rfl, .inl rfl⟩⟩

lemma Paired.keep (h : Paired c d d') (same : e.acquisition = d.acquisition ∧ e.queue = d.queue)
    (same' : e'.acquisition = d'.acquisition ∧ e'.queue = d'.queue) : Paired c e e' := by
  obtain ⟨acquisition, queue⟩ := same
  obtain ⟨acquisition', queue'⟩ := same'
  constructor
  · rw [acquisition, acquisition']
    exact h.acquisition
  · rw [acquisition, acquisition']
    exact h.detector
  · rw [queue, queue']
    exact h.queue

/-- An edge of either channel queues a pulse in both runs or in neither, and a pulse of `c` is the
same one in both. -/
lemma Paired.accepted (h : Paired c d d') {channel : Channel} {now now' : UInt16}
    (capture : CaptureAlike c d d' (.event (.edge channel now)) (.event (.edge channel now'))) :
    List.Forall₂ (Pulse.Alike c) (d.accepted (.edge channel now))
      (d'.accepted (.edge channel now')) := by
  have armed := h.acquisition.armed channel
  have room : d'.queue.length = d.queue.length := h.queue.length_eq.symm
  cases state : d.acquisition.detectors.get channel with
  | waiting =>
    cases state' : d'.acquisition.detectors.get channel with
    | timing rise => simp [state, state', EdgeDetector.armed] at armed
    | waiting =>
      rw [accepted_edge_of_waiting now state, accepted_edge_of_waiting now' state']
      exact .nil
  | timing rise =>
    cases state' : d'.acquisition.detectors.get channel with
    | waiting => simp [state, state', EdgeDetector.armed] at armed
    | timing rise' =>
      have first := accepted_edge_of_timing now state
      have second := accepted_edge_of_timing now' state'
      rw [room] at second
      by_cases free : d.queue.length < pulseSlots - 1
      · rw [if_pos free] at first second
        rw [CaptureAlike, first, second] at capture
        rw [first, second]
        refine .cons ⟨rfl, ?_⟩ .nil
        by_cases own : channel = c
        · -- both pulses began and end at the same times
          rw [if_pos own] at capture
          have began : EdgeDetector.timing rise' = .timing rise := by
            rw [← state', ← state, own, h.detector]
          cases began
          rw [capture]
          exact .inl rfl
        · rw [if_neg own] at capture
          have width := capture _ List.mem_cons_self _ List.mem_cons_self
          exact width.imp_right fun narrow => ⟨own, narrow⟩
      · rw [if_neg free] at first second
        rw [first, second]
        exact .nil

lemma Paired.edge (h : Paired c d d') {channel : Channel} {now now' : UInt16}
    (capture : CaptureAlike c d d' (.event (.edge channel now)) (.event (.edge channel now'))) :
    Paired c (d.edge channel now).2 (d'.edge channel now').2 := by
  constructor
  · rw [acquisition_edge, acquisition_edge]
    exact h.acquisition.edge channel now now'
  · rw [acquisition_edge, acquisition_edge]
    by_cases own : channel = c
    · rw [CaptureAlike, if_pos own] at capture
      rw [own, capture]
      exact Acquisition.detector_edge_congr h.detector now
    · have other : c ≠ channel := Ne.symm own
      rw [Acquisition.detector_edge_of_ne _ other, Acquisition.detector_edge_of_ne _ other, h.detector]
  · rw [entries_edge, entries_edge]
    exact List.rel_append h.queue (h.accepted capture)

lemma Paired.watchdog (h : Paired c d d') : Paired c d.watchdog.2 d'.watchdog.2 := by
  have acquisition := h.acquisition.closeWindow.2
  refine ⟨acquisition, ?_, h.queue⟩
  show (d'.acquisition.closeWindow.2.detectors.get c) = d.acquisition.closeWindow.2.detectors.get c
  unfold Acquisition.closeWindow
  rw [h.acquisition.count]
  split
  · rfl
  · exact h.detector

lemma Paired.drain (h : Paired c d d') : Paired c d.drain.2 d'.drain.2 := by
  constructor
  · rw [acquisition_drain, acquisition_drain]
    exact h.acquisition
  · rw [acquisition_drain, acquisition_drain]
    exact h.detector
  · exact .nil

lemma Paired.react (h : Paired c d d') {s s' : Stimulus} (alike : s.Alike c s')
    (capture : CaptureAlike c d d' s s') : Paired c (d.react s) (d'.react s') := by
  cases alike with
  | edge => exact h.edge capture
  | pulse => exact h.keep (d.unsensed_handle rfl) (d'.unsensed_handle rfl)
  | same =>
    cases s with
    | signal good => exact { h with }
    | event e =>
      cases e with
      | edge channel now => exact h.edge capture
      | watchdog => exact h.watchdog
      | drain => exact h.drain
      | pulse | update | step | overflow | compare | receive | collect | failWrites | failLoads =>
        exact h.keep (d.unsensed_handle rfl) (d'.unsensed_handle rfl)

lemma Paired.reactAll (h : Paired c d d') (alike : List.Forall₂ (Stimulus.Alike c) ss ss')
    (captures : CapturesAlike c d d' ss ss') (n : Nat) :
    Paired c (d.reactAll (ss.take n)) (d'.reactAll (ss'.take n)) := by
  induction alike generalizing d d' n with
  | nil =>
    rw [List.take_nil]
    exact h
  | cons first _ ih =>
    obtain ⟨capture, captures⟩ := captures
    cases n with
    | zero => exact h
    | succ n => exact ih (h.react first capture) captures n

end

/-- Two runs from power-up differ in nothing but when edges come and in which pulses are taken into
account. The edges of `c`, if there are any, come at the same times in both. Pulses that are queued or
taken into account only differ in the widths of accepted pulses of the other channel. As long as the live
settings are in tank mode, both runs are in the same phase at every point, with the same resting
position of `c`, and the motor of `c` has the same command, the same event and the same level on
either leg. -/
theorem channels_isolated (version : Version) (transport : Loopback) (store : RamStore) (c : Channel)
    (ss ss' : List Stimulus) (alike : List.Forall₂ (Stimulus.Alike c) ss ss') :
    let boot := (boot version transport store).2
    (∀ n < ss.length, (boot.reactAll (ss.take n)).status.settings.mode = .tank) →
    CapturesAlike c boot boot ss ss' →
    ∀ n,
      let d := boot.reactAll (ss.take n)
      let d' := boot.reactAll (ss'.take n)
      d'.status.phase = d.status.phase ∧
      d'.steering.mixer.calibration.map (·.neutral.get c) =
        d.steering.mixer.calibration.map (·.neutral.get c) ∧
      d'.motors.latch.commands.get c.motor = d.motors.latch.commands.get c.motor ∧
      d'.motors.stage.compares.get c.motor = d.motors.stage.compares.get c.motor ∧
      ∀ leg, d'.motors.stage.line c.motor leg = d.motors.stage.line c.motor leg := by
  intro boot tank captures
  have paired := (paired_self c boot).reactAll alike captures
  exact isolated_of_queues version transport store c ss ss' alike tank fun n _ => (paired n).queue

/-- The other stick is at one of its stops from the calibration on, and its edges come at other times.
The right-hand motor turns forward or backward, but the left-hand one is driven in either case. -/
theorem channels_isolated_stops :
    let ss (width : UInt16) : List Stimulus := [.signal true, .event (.step 0),
      .event (.edge .ch1 5), .event (.edge .ch2 (7 + width)), .event (.edge .ch1 380),
      .event (.edge .ch2 (7 + 2 * width)), .event .drain, .event (.step 1),
      .event (.pulse ⟨.ch2, width, 0⟩), .event (.pulse ⟨.ch1, 500, 0⟩), .event (.compare .left)]
    let upper := unset.reactAll (ss 500)
    let lower := unset.reactAll (ss 250)
    (upper.motors.latch.commands.right.direction = .forward ∧
      lower.motors.latch.commands.right.direction = .backward) ∧
      upper.motors.stage.line .left .forward = true ∧ lower.motors.stage.line .left .forward = true := by
  intro ss upper lower
  have alike : List.Forall₂ (Stimulus.Alike .ch1) (ss 500) (ss 250) :=
    .cons .same <| .cons .same <| .cons .same <| .cons .edge <| .cons .same <| .cons .edge <|
      .cons .same <| .cons .same <| .cons (.pulse (by decide)) <| .cons .same <| .cons .same .nil
  have isolated := channels_isolated .mixer .empty (.holding Settings.erasedBlock) .ch1 (ss 500)
    (ss 250) alike (by decide +kernel) (by decide +kernel) 11
  have high : upper.motors.stage.line .left .forward = true := by decide +kernel
  exact ⟨by decide +kernel, high, (isolated.2.2.2.2 .forward).trans high⟩

end Device

end SpeedController
