import SpeedController.Proofs.Device.History
import SpeedController.Proofs.Mixing.Exactness
import SpeedController.Proofs.Receiver.Average

/-!
# Ranges of the control path

A pulse carries a sample between the stops of the stick or none, whatever its width, so the averages
and the resting positions that are taken from them never leave this range (`Steering.InRange`), and
every event keeps them there (`inRange_handle`). Nothing else is needed for the control path not to
overflow: the travel of the sticks may be any bytes that a host sends. The main statement is
`control_in_range`.
-/

namespace SpeedController

open Mixing Power Receiver

namespace Steering

/-- The averages keep between the stops of the sticks, and so do the resting positions. -/
structure InRange (s : Steering) : Prop where
  filters : ∀ channel, (s.filters.get channel).Within stickTop
  calibration : ∀ c, s.mixer.calibration = some c →
    ∃ samples travel, (∀ channel, samples.get channel ≤ stickTop) ∧ c = .take samples travel

variable {s : Steering}

lemma inRange_start : start.InRange where
  filters channel := by
    rw [show start.filters.get channel = .filled stickCentre from Axes.get_both _ channel]
    exact Window.within_filled (by decide)
  calibration := nofun

lemma InRange.samples_le (h : s.InRange) (channel : Channel) : s.samples.get channel ≤ stickTop := by
  rw [samples, Axes.get_map]
  exact (h.filters channel).mean_le (by decide)

lemma InRange.push (h : s.InRange) {sample : UInt16} (le : sample ≤ stickTop) (channel : Channel) :
    (s.push channel sample).InRange := by
  refine ⟨fun c => ?_, h.calibration⟩
  rw [Steering.push]
  by_cases own : c = channel
  · subst own
    rw [Axes.get_set_self]
    exact (h.filters c).push le
  · rw [Axes.get_set_of_ne _ _ own]
    exact h.filters c

lemma InRange.calibrate (h : s.InRange) (settings : Settings) : (s.calibrate settings).InRange := by
  refine ⟨h.filters, ?_⟩
  rintro c ⟨rfl⟩
  exact ⟨s.samples, settings.travel, h.samples_le, rfl⟩

/-- A resting position is a sample. -/
lemma InRange.neutral (h : s.InRange) (channel : Channel) :
    ∃ sample ≤ stickTop, s.mixer.inForce.neutral.get channel = sample.toInt16 := by
  unfold Mixer.inForce
  cases calibration : s.mixer.calibration with
  | none => exact ⟨stickCentre, by decide, Axes.get_both _ channel⟩
  | some c =>
    obtain ⟨samples, travel, le, rfl⟩ := h.calibration c calibration
    exact ⟨samples.get channel, le channel, Calibration.neutral_take samples travel channel⟩

lemma InRange.gentle (h : s.InRange) : s.mixer.inForce.Gentle := by
  unfold Mixer.inForce
  cases calibration : s.mixer.calibration with
  | none => exact Calibration.gentle_idle
  | some c =>
    obtain ⟨samples, travel, _, rfl⟩ := h.calibration c calibration
    exact Calibration.gentle_take samples travel

/-- The difference of a sample to a resting position fits a short word. -/
lemma InRange.toInt_deflection (h : s.InRange) (channel : Channel) :
    ((s.samples.get channel).toInt16 - s.mixer.inForce.neutral.get channel).toInt =
      (s.samples.get channel).toInt16.toInt - (s.mixer.inForce.neutral.get channel).toInt := by
  obtain ⟨rest, rest_le, neutral⟩ := h.neutral channel
  have sample_le := h.samples_le channel
  have below {v : UInt16} (le : v ≤ stickTop) : v.toNat < 32768 :=
    Nat.lt_of_le_of_lt (UInt16.le_iff_toNat_le.1 le) (by decide)
  rw [neutral, toInt_toInt16_of_le sample_le, toInt_toInt16_of_le rest_le]
  exact Mixing.toInt_deflection (below sample_le) (below rest_le)

end Steering

namespace Device

section
variable {T S : Type} {d : Device T S}

lemma inRange_update (h : d.steering.InRange) : d.update.2.steering.InRange := by
  cases due : d.status.calibrationDue with
  | true =>
    rw [update_of_due due]
    exact h.calibrate d.status.settings
  | false =>
    rw [update_of_calm due]
    exact h

lemma inRange_onPulse (h : d.steering.InRange) (p : Pulse) : (d.onPulse p).2.steering.InRange := by
  unfold Device.onPulse
  cases sampled : p.sample? with
  | none => exact h
  | some sample =>
    have pushed := h.push (sampleOfWidth?_le sampled) p.channel
    exact inRange_update pushed

lemma inRange_onPulses (h : d.steering.InRange) (ps : List Pulse) :
    (ps.foldl (fun d p => (d.onPulse p).2) d).steering.InRange := by
  induction ps generalizing d with
  | nil => exact h
  | cons p ps ih => exact ih (inRange_onPulse h p)

end

variable {d : BenchDevice}

lemma inRange_handle (h : d.steering.InRange) (e : Event) : (d.handle e).steering.InRange := by
  cases e with
  | edge channel now =>
    obtain ⟨queue, frame⟩ := d.edge_frame channel now
    rw [Device.handle, frame]
    exact h
  | drain => exact inRange_onPulses h d.queue.entries
  | pulse p => exact inRange_onPulse h p
  | update => exact inRange_update h
  | step now =>
    rw [Device.handle, (step_transition d now).steering_eq]
    exact h
  | watchdog | overflow | compare | receive | collect | failWrites | failLoads => exact h

lemma inRange_run (h : d.steering.InRange) (es : List Event) : (d.run es).steering.InRange := by
  induction es generalizing d with
  | nil => exact h
  | cons e es ih => exact ih (inRange_handle h e)

/-- In every run of a device, all slots of the filters, both averages and both resting positions keep
between the stops of the sticks, so that they are the same numbers as short words, and the deflection
of a stick is exact. To calibrate on these averages does not overflow, whatever the settings, and
neither does it to mix them on the lines in force. Pulses are events of their own, so this also holds
between the pulses of a queue. -/
theorem control_in_range (version : Link.Version) (transport : Link.Loopback)
    (store : Settings.RamStore) (es : List Event) :
    let s := ((boot version transport store).2.run es).steering
    (∀ channel,
      let sample := s.samples.get channel
      let neutral := s.mixer.inForce.neutral.get channel
      (∀ v ∈ (s.filters.get channel).slots, v ≤ stickTop) ∧ sample ≤ stickTop ∧
        0 ≤ neutral.toInt ∧ neutral.toInt ≤ stickTop.toNat ∧
        sample.toInt16.toInt = sample.toNat ∧
        (sample.toInt16 - neutral).toInt = sample.toNat - neutral.toInt) ∧
      ∀ settings : Settings,
        Mixer.calibrate? s.samples settings = some (.calibrate s.samples settings) ∧
          s.mixer.mix? s.samples settings = some (s.mixer.mix s.samples settings) := by
  intro s
  have range : s.InRange := inRange_run Steering.inRange_start es
  have fit (channel : Channel) := toInt_toInt16_of_le (range.samples_le channel)
  refine ⟨fun channel => ?_, fun settings => ⟨Mixer.calibrate?_eq fit settings,
    Mixer.mix?_eq range.gentle fit range.toInt_deflection settings⟩⟩
  obtain ⟨rest, rest_le, neutral⟩ := range.neutral channel
  have resting := toInt_toInt16_of_le rest_le
  have slots : ∀ v ∈ (s.filters.get channel).slots, v ≤ stickTop :=
    fun v member => range.filters channel v (Window.mem_entries.2 member)
  have deflection := range.toInt_deflection channel
  rw [fit] at deflection
  rw [UInt16.le_iff_toNat_le] at rest_le
  dsimp only
  rw [neutral] at deflection ⊢
  exact ⟨slots, range.samples_le channel, by omega, by omega, fit channel, deflection⟩

end Device

end SpeedController
