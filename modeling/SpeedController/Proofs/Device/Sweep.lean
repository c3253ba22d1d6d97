import SpeedController.Proofs.Device.Isolation
import SpeedController.Proofs.Mixing.Tank
import SpeedController.Proofs.Receiver.Average

/-!
# Sweeps

A stick that is moved steadily upward gives pulses that are never narrower than the ones before. No
sample then lowers the average of its channel (`Window.Within`), and within the travel of the stick a
higher average is no lower command, so the motor never steps back, whatever the other stick does
(`Tracking.sweep`). Four pulses at the upper stop fill the average, and the motor has all of its power
(`Tracking.top_of_stops`). The main statement is `sweep_steady`.
-/

namespace SpeedController

open Mixing Power Receiver

namespace Device

variable {T S : Type} {c : Channel} {neutral : Axes UInt16} {d : Device T S} {p : Pulse}
  {ps : List Pulse} {sample : UInt16}

/-- The commands that are latched after each control update, while pulses are taken into account. -/
def latched (d : Device T S) : List Pulse → List (Sides Command)
  | [] => []
  | p :: ps =>
    (if (d.onPulse p).1.isSome then [(d.onPulse p).2.motors.latch.commands] else []) ++
      (d.onPulse p).2.latched ps

/-- A device in tank mode has been calibrated on its settings, with a full travel of the stick of `c`,
and no calibration is due. -/
structure Tracking (c : Channel) (neutral : Axes UInt16) (d : Device T S) : Prop where
  calm : d.status.calibrationDue = false
  tank : d.status.settings.mode = .tank
  travel : d.status.settings.travel.get c = .full
  mixer : d.steering.mixer = .calibrate neutral d.status.settings

/-- The signed command that the averages ask of the motor of `c`. -/
def demand (d : Device T S) (c : Channel) : Int :=
  ((d.steering.commands d.status.settings).get c.motor).signed

/-- A pulse with a sample is mixed into commands, which are latched. -/
lemma Tracking.onPulse_eq (h : d.Tracking c neutral) (sampled : p.sample? = some sample) :
    d.onPulse p = (some ((d.steering.push p.channel sample).commands d.status.settings), { d with
      steering := d.steering.push p.channel sample
      motors := d.motors.setBoth
        ((d.steering.push p.channel sample).commands d.status.settings) }) := by
  rw [onPulse, sampled]
  exact update_of_calm (d := { d with steering := d.steering.push p.channel sample }) h.calm

lemma Tracking.onPulse (h : d.Tracking c neutral) (p : Pulse) :
    (d.onPulse p).2.Tracking c neutral := by
  cases sampled : p.sample? with
  | none =>
    rw [onPulse_of_unsampled d sampled]
    exact h
  | some sample =>
    rw [h.onPulse_eq sampled]
    exact { h with }

lemma Tracking.onPulses (h : d.Tracking c neutral) (ps : List Pulse) :
    (ps.foldl (fun d p => (d.onPulse p).2) d).Tracking c neutral := by
  induction ps generalizing d with
  | nil => exact h
  | cons p ps ih => exact ih (h.onPulse p)

lemma settings_onPulses (d : Device T S) (ps : List Pulse) :
    (ps.foldl (fun d p => (d.onPulse p).2) d).status.settings = d.status.settings := by
  induction ps generalizing d with
  | nil => rfl
  | cons p ps ih => rw [List.foldl_cons, ih, settings_onPulse]

/-- A sample latches the commands of the new averages. -/
lemma Tracking.latched_onPulse (h : d.Tracking c neutral) (sampled : p.sample? = some sample) :
    (d.onPulse p).1.isSome = true ∧ (d.onPulse p).2.motors.latch.commands =
      (d.onPulse p).2.steering.commands (d.onPulse p).2.status.settings := by
  rw [h.onPulse_eq sampled]
  exact ⟨rfl, rfl⟩

lemma Tracking.filter_own (h : d.Tracking c neutral) (sampled : p.sample? = some sample)
    (own : p.channel = c) :
    (d.onPulse p).2.steering.filters.get c = (d.steering.filters.get c).push sample := by
  rw [h.onPulse_eq sampled]
  subst own
  exact Axes.get_set_self _ _ _

lemma Tracking.filter_other (h : d.Tracking c neutral) (other : p.channel ≠ c) :
    (d.onPulse p).2.steering.filters.get c = d.steering.filters.get c := by
  cases sampled : p.sample? with
  | none => rw [onPulse_of_unsampled d sampled]
  | some sample =>
    rw [h.onPulse_eq sampled]
    exact Axes.get_set_of_ne _ _ other.symm

/-- The motor of the channel gets the command of its average, on the lines around its resting
position. -/
lemma Tracking.command_eq (h : d.Tracking c neutral) :
    (d.steering.commands d.status.settings).get c.motor =
      (Calibration.take neutral d.status.settings.travel).tankCommand c
        (d.steering.filters.get c).mean.toInt16 d.status.settings.deadzone := by
  rw [Steering.get_commands h.tank, h.mixer]
  rfl

lemma Tracking.lines_eq (h : d.Tracking c neutral) :
    (Calibration.take neutral d.status.settings.travel).lines.get c =
      .around ((Calibration.take neutral d.status.settings.travel).neutral.get c) .full := by
  rw [Calibration.lines_take, Calibration.neutral_take, h.travel]

/-- With a higher average the command is no lower. -/
lemma Tracking.demand_le {d' : Device T S} (h : d.Tracking c neutral) (h' : d'.Tracking c neutral)
    (settings : d'.status.settings = d.status.settings)
    (le : (d.steering.filters.get c).mean ≤ (d'.steering.filters.get c).mean)
    (top : (d'.steering.filters.get c).mean ≤ stickTop) : d.demand c ≤ d'.demand c := by
  have low : Travel.full.low.toUInt16.toInt16.toInt = 0 := by decide
  have high : Travel.full.high.toUInt16.toInt16.toInt = 250 := by decide
  have position := toInt_toInt16_of_le (UInt16.le_trans le top)
  have position' := toInt_toInt16_of_le top
  have stop : stickTop.toNat = 250 := rfl
  rw [UInt16.le_iff_toNat_le] at le top
  unfold demand
  rw [h.command_eq, h'.command_eq, settings]
  apply Calibration.signed_tankCommand_le h.lines_eq
  all_goals rw [Int16.le_iff_toInt_le]; omega

/-- A sample that no entry of the average exceeds does not lower the command, and a pulse of the other
channel leaves it as it is. -/
lemma Tracking.demand_le_onPulse (h : d.Tracking c neutral) (sampled : p.sample? = some sample)
    (above : p.channel = c → (d.steering.filters.get c).Within sample) :
    d.demand c ≤ (d.onPulse p).2.demand c := by
  have settings := d.settings_onPulse p
  by_cases own : p.channel = c
  · have within := above own
    apply h.demand_le (h.onPulse p) settings <;> rw [h.filter_own sampled own]
    · exact within.mean_le_push (by decide) (by decide)
    · exact UInt16.le_trans ((within.push (UInt16.le_refl _)).mean_le (by decide)) (sampleOfWidth?_le sampled)
  · have same : (d.onPulse p).2.demand c = d.demand c := by
      unfold demand
      rw [h.command_eq, (h.onPulse p).command_eq, settings, h.filter_other own]
    exact Int.le_of_eq same.symm

/-- The average stays below the samples that are to come. -/
lemma Tracking.within_onPulse {q : Pulse} {sample' : UInt16} (h : d.Tracking c neutral)
    (sampled : p.sample? = some sample) (sampled' : q.sample? = some sample')
    (rising : p.channel = c → p.width ≤ q.width)
    (above : (d.steering.filters.get c).Within sample') :
    ((d.onPulse p).2.steering.filters.get c).Within sample' := by
  by_cases own : p.channel = c
  · rw [h.filter_own sampled own]
    exact above.push (sampleOfWidth?_mono (rising own) sampled sampled')
  · rw [h.filter_other own]
    exact above

/-- While the samples of the channel do not fall, neither do the commands of its motor. -/
lemma Tracking.sweep (h : d.Tracking c neutral)
    (rising : (ps.filter (·.channel = c)).Pairwise (·.width ≤ ·.width))
    (above : ∀ p ∈ ps, p.channel = c → ∀ sample, p.sample? = some sample →
      (d.steering.filters.get c).Within sample) :
    ((d.latched ps).map fun commands => (commands.get c.motor).signed).Pairwise (· ≤ ·) ∧
      ∀ commands ∈ d.latched ps, d.demand c ≤ (commands.get c.motor).signed := by
  induction ps generalizing d with
  | nil => exact ⟨.nil, nofun⟩
  | cons p ps ih =>
    have rising' : (ps.filter (·.channel = c)).Pairwise (·.width ≤ ·.width) :=
      rising.sublist ((List.sublist_cons_self p ps).filter _)
    rw [latched]
    cases sampled : p.sample? with
    | none =>
      rw [onPulse_of_unsampled d sampled]
      exact ih h rising' fun q later => above q (List.mem_cons_of_mem _ later)
    | some sample =>
      have above₁ (own : p.channel = c) := above p List.mem_cons_self own sample sampled
      have first := h.demand_le_onPulse sampled above₁
      obtain ⟨pairwise, later⟩ := ih (h.onPulse p) rising' fun q member own sample' sampled' => by
        refine h.within_onPulse sampled sampled' (fun own' => ?_)
          (above q (List.mem_cons_of_mem _ member) own sample' sampled')
        rw [List.filter_cons_of_pos (by simpa using own')] at rising
        exact List.rel_of_pairwise_cons rising (List.mem_filter.2 ⟨member, by simpa using own⟩)
      obtain ⟨mixed, commands⟩ := h.latched_onPulse sampled
      rw [if_pos mixed, List.singleton_append, commands]
      refine ⟨List.pairwise_cons.2 ⟨fun x member => ?_, pairwise⟩, fun x member => ?_⟩
      · obtain ⟨commands, latched, rfl⟩ := List.mem_map.1 member
        exact later commands latched
      · rcases List.mem_cons.1 member with rfl | member
        · exact first
        · exact Int.le_trans first (later x member)

/-- A window below the first sample is below all samples that come, if they do not fall. -/
lemma within_of_first {w : Window filterLength}
    (rising : (ps.filter (·.channel = c)).Pairwise (·.width ≤ ·.width))
    (first : ∀ p ∈ ps.find? (·.channel = c), ∀ sample ∈ p.sample?, w.Within sample) :
    ∀ p ∈ ps, p.channel = c → ∀ sample, p.sample? = some sample → w.Within sample := by
  intro q member own sample sampled
  have inside : q ∈ ps.filter (·.channel = c) := List.mem_filter.2 ⟨member, by simpa using own⟩
  rw [← List.head?_filter] at first
  cases split : ps.filter (·.channel = c) with
  | nil =>
    rw [split] at inside
    cases inside
  | cons p rest =>
    rw [split] at first inside rising
    have le : p.width ≤ q.width := by
      rcases List.mem_cons.1 inside with rfl | later
      · exact UInt16.le_refl _
      · exact List.rel_of_pairwise_cons rising later
    obtain ⟨sample₀, sampled₀⟩ :=
      exists_sampleOfWidth? (UInt16.le_trans le (width_le_of_sampleOfWidth? sampled))
    exact (first p rfl sample₀ sampled₀).mono (sampleOfWidth?_mono le sampled₀ sampled)

/-- A pulse at the upper stop settles the average by one more sample, and no other pulse of the channel
comes. -/
lemma Tracking.settled_onPulses {k : Nat} (h : d.Tracking c neutral)
    (stops : ∀ p ∈ ps, p.channel = c → p.width = widestPulse)
    (settled : (d.steering.filters.get c).Settled stickTop k) :
    ((ps.foldl (fun d p => (d.onPulse p).2) d).steering.filters.get c).Settled stickTop
      (k + ps.countP (·.channel = c)) := by
  induction ps generalizing d k with
  | nil => exact settled
  | cons p ps ih =>
    have stops' : ∀ q ∈ ps, q.channel = c → q.width = widestPulse :=
      fun q later => stops q (List.mem_cons_of_mem _ later)
    by_cases own : p.channel = c
    · have sampled : p.sample? = some stickTop := by
        rw [Pulse.sample?, stops p List.mem_cons_self own]
        rfl
      have settled' := settled.push
      rw [← h.filter_own sampled own] at settled'
      have rest := ih (h.onPulse p) stops' settled'
      rwa [Nat.add_assoc, Nat.add_comm 1, ← List.countP_cons_of_pos (by simpa using own)] at rest
    · rw [← h.filter_other own] at settled
      have rest := ih (h.onPulse p) stops' settled
      rwa [← List.countP_cons_of_neg (a := p) (by simpa using own)] at rest

/-- Once a pulse with a sample has come, the commands of the averages are latched. -/
lemma Tracking.latched_onPulses (h : d.Tracking c neutral)
    (mixed : d.motors.latch.commands = d.steering.commands d.status.settings ∨
      ∃ p ∈ ps, p.sample?.isSome = true) :
    let d' := ps.foldl (fun d p => (d.onPulse p).2) d
    d'.motors.latch.commands = d'.steering.commands d'.status.settings := by
  induction ps generalizing d with
  | nil => simpa using mixed
  | cons p ps ih =>
    apply ih (h.onPulse p)
    cases sampled : p.sample? with
    | some sample => exact .inl (h.latched_onPulse sampled).2
    | none =>
      rw [onPulse_of_unsampled d sampled]
      rcases mixed with mixed | ⟨q, member, some_sample⟩
      · exact .inl mixed
      · rcases List.mem_cons.1 member with rfl | later
        · simp [sampled] at some_sample
        · exact .inr ⟨q, later, some_sample⟩

/-- After enough pulses at the upper stop the motor has all of its power. -/
lemma Tracking.top_of_stops (h : d.Tracking c neutral)
    (stops : ∀ p ∈ ps, p.channel = c → p.width = widestPulse)
    (enough : filterLength ≤ ps.countP (·.channel = c)) (below : neutral.get c < stickTop)
    (small : d.status.settings.deadzone < 255) :
    (ps.foldl (fun d p => (d.onPulse p).2) d).motors.latch.commands.get c.motor =
      ⟨.forward, 255⟩ := by
  have latched : ∃ p ∈ ps, p.sample?.isSome = true := by
    obtain ⟨p, member, own⟩ := List.countP_pos_iff.1 (Nat.lt_of_lt_of_le (by decide) enough)
    refine ⟨p, member, ?_⟩
    rw [Pulse.sample?, stops p member (by simpa using own)]
    rfl
  have settled := h.settled_onPulses stops ((d.steering.filters.get c).settled_zero stickTop)
  rw [Nat.zero_add] at settled
  have stopped := settled.mean_eq enough (by decide) (by decide)
  have h' := h.onPulses ps
  rw [h.latched_onPulses (.inr latched), h'.command_eq, stopped]
  refine Calibration.tankCommand_top h'.lines_eq ?_ (by rwa [d.settings_onPulses ps])
  have top : Travel.full.high.toUInt16.toInt16 = stickTop.toInt16 := by decide
  rw [Calibration.neutral_take, top, Int16.lt_iff_toInt_lt,
    toInt_toInt16_of_le (UInt16.le_of_lt below), toInt_toInt16_of_le (UInt16.le_refl stickTop)]
  exact Int.ofNat_lt.2 (UInt16.lt_iff_toNat_lt.1 below)

/-- Every pulse with a sample is followed by a control update that mixes. -/
lemma Tracking.length_latched (h : d.Tracking c neutral) (ps : List Pulse) :
    (d.latched ps).length = ps.countP (·.sample?.isSome) := by
  induction ps generalizing d with
  | nil => rfl
  | cons p ps ih =>
    rw [latched, List.length_append, ih (h.onPulse p)]
    cases sampled : p.sample? with
    | none => simp [onPulse_of_unsampled d sampled, sampled]
    | some sample => simp [(h.latched_onPulse sampled).1, sampled, Nat.add_comm]

/-- Let the control loop have been calibrated in tank mode, with the full travel of a stick around any
resting position in it, and let no value in the average of the stick exceed its first sample. While
the stick gives pulses that are never narrower than the ones before, and the other stick any pulses,
the signed command of its motor never falls from one control update to the next. After four pulses
at the upper stop it is full forward, unless the stick rests there or the deadzone takes everything. -/
theorem sweep_steady {T S : Type} {c : Channel} {neutral : Axes UInt16} {d : Device T S}
    (h : d.Tracking c neutral) (ps : List Pulse)
    (rising : (ps.filter (·.channel = c)).Pairwise (·.width ≤ ·.width))
    (first : ∀ p ∈ ps.find? (·.channel = c), ∀ sample ∈ p.sample?,
      (d.steering.filters.get c).Within sample) :
    (d.latched ps).length = ps.countP (·.sample?.isSome) ∧
    ((d.latched ps).map fun commands => (commands.get c.motor).signed).Pairwise (· ≤ ·) ∧
    ∀ before last, ps = before ++ last →
      (∀ p ∈ last, p.channel = c → p.width = widestPulse) →
      filterLength ≤ last.countP (·.channel = c) →
      neutral.get c < stickTop → d.status.settings.deadzone < 255 →
      (ps.foldl (fun d p => (d.onPulse p).2) d).motors.latch.commands.get c.motor =
        ⟨.forward, 255⟩ := by
  refine ⟨h.length_latched ps, (h.sweep rising (within_of_first rising first)).1, ?_⟩
  rintro before last rfl stops enough below small
  rw [List.foldl_append]
  exact (h.onPulses before).top_of_stops stops enough below
    (by rwa [d.settings_onPulses before])

/-- The left-hand stick rests in the centre and is moved from near its lower stop to the upper one,
while the other stick jumps about and loses a pulse. The motor turns backward at first, and forward in
the end. -/
theorem sweep_steady_ramp :
    let d := unset.reactAll ([.signal true, .event (.step 0), .event .update] ++
      List.replicate 4 (.event (.pulse ⟨.ch1, 260, 0⟩)))
    let before : List Pulse := [⟨.ch1, 260, 0⟩, ⟨.ch2, 490, 0⟩, ⟨.ch1, 300, 0⟩, ⟨.ch2, 600, 0⟩,
      ⟨.ch1, 420, 0⟩]
    let stop : List Pulse := [⟨.ch1, 500, 0⟩, ⟨.ch1, 500, 0⟩, ⟨.ch2, 250, 0⟩, ⟨.ch1, 500, 0⟩,
      ⟨.ch1, 500, 0⟩]
    d.Tracking .ch1 ⟨125, 125⟩ ∧ (d.latched (before ++ stop)).length = 9 ∧
      d.demand .ch1 = -233 ∧
      ((d.latched (before ++ stop)).map fun commands => (commands.get .left).signed).Pairwise
        (· ≤ ·) ∧
      ((before ++ stop).foldl (fun d p => (d.onPulse p).2) d).motors.latch.commands.get .left =
        ⟨.forward, 255⟩ := by
  intro d before stop
  have tracking : d.Tracking .ch1 ⟨125, 125⟩ :=
    ⟨by decide +kernel, by decide +kernel, by decide +kernel, by decide +kernel⟩
  have first : ∀ p ∈ (before ++ stop).find? (·.channel = .ch1), ∀ sample ∈ p.sample?,
      (d.steering.filters.get .ch1).Within sample := by
    rintro p ⟨⟩ sample ⟨⟩
    decide +kernel
  obtain ⟨length, steady, top⟩ :=
    sweep_steady tracking (before ++ stop) (by decide +kernel) first
  exact ⟨tracking, length.trans (by decide +kernel), by decide +kernel, steady,
    top before stop rfl (by decide +kernel) (by decide +kernel) (by decide +kernel)
      (by decide +kernel)⟩

end Device

end SpeedController
