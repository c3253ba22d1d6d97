import SpeedController.Proofs.Device.Guard

/-!
# The calibration in force

A round of calibration begins when the supervisor asks for one, and it is over when the supervisor
asks again or reads a bad signal. `InRound` finds the open round in a history. While the supervisor
waits, a round is open in which at most one calibration has been taken (`Waiting`); a device that
follows the signal was launched from a round with exactly one, whose positions and lines it still
uses (`Launched`). Every move keeps both, so a write of the settings never gets between a
calibration and the drive (`Guarded.rounds`).

A device that follows the signal never serves a host again: neither the mixer nor the settings nor
the store nor the bytes that wait change any more (`Steady.run`). Both halves together are
`calibration_in_force`.
-/

namespace SpeedController

open Link Mixing Power Receiver
open Settings (Store RamStore)

@[simp] lemma calibrations_append (as bs : List Act) :
    calibrations (as ++ bs) = calibrations as ++ calibrations bs := List.filterMap_append

/-- The bytes that an event brings. -/
def Event.bytes : Event → List UInt8
  | .receive bytes => bytes
  | _ => []

/-- The bytes that come in a run. -/
def received (es : List Event) : List UInt8 := es.flatMap Event.bytes

/-- The supervisor asked for a calibration and has neither asked again nor read a bad signal since;
`taken` lists the resting positions that were taken since. -/
def InRound (acts : List Act) (taken : List (Axes UInt16)) : Prop :=
  ∃ before after, acts = before ++ .step true true .start .start :: after ∧
    (∀ good source target, .step good true source target ∉ after) ∧
    (∀ asked source target, .step false asked source target ∉ after) ∧
    calibrations after = taken

/-- The request opens a round. -/
lemma inRound_ask (acts : List Act) : InRound (acts ++ [.step true true .start .start]) [] :=
  ⟨acts, [], rfl, by simp, by simp, rfl⟩

/-- A round stays open as long as nothing is asked for and no bad signal is read. -/
lemma InRound.append {acts bs : List Act} {taken : List (Axes UInt16)} (round : InRound acts taken)
    (unasked : ∀ good source target, .step good true source target ∉ bs)
    (held : ∀ asked source target, .step false asked source target ∉ bs) :
    InRound (acts ++ bs) (taken ++ calibrations bs) := by
  obtain ⟨before, after, rfl, unasked', held', rfl⟩ := round
  refine ⟨before, after ++ bs, by simp, fun a b c => ?_, fun a b c => ?_, by simp⟩
  · exact List.not_mem_append (unasked' a b c) (unasked a b c)
  · exact List.not_mem_append (held' a b c) (held a b c)

namespace Device

variable {T S : Type}

/-- What a history tells while the supervisor waits for a calibration. -/
def Waiting (acts : List Act) (d : Device T S) : Prop :=
  d.supervisor.calibrating = true → ∃ taken, InRound acts taken ∧
    if d.status.calibrationDue then taken = []
    else ∃ samples, taken = [samples] ∧ d.steering.mixer = .calibrate samples d.status.settings

/-- What a history tells while the device follows the signal. -/
def Launched (acts : List Act) (d : Device T S) : Prop :=
  d.Driving → ∃ before after samples, acts = before ++ .step true false .start .active :: after ∧
    InRound before [samples] ∧ d.steering.mixer = .calibrate samples d.status.settings

/-- Entries that do not concern the round leave it as it is. -/
lemma Waiting.append {d d' : Device T S} {acts bs : List Act} (known : Waiting acts d)
    (supervisor : d'.supervisor = d.supervisor) (status : d'.status = d.status)
    (mixer : d'.steering.mixer = d.steering.mixer)
    (unasked : ∀ good source target, .step good true source target ∉ bs)
    (held : ∀ asked source target, .step false asked source target ∉ bs)
    (untaken : calibrations bs = []) : Waiting (acts ++ bs) d' := by
  intro waiting
  rw [supervisor] at waiting
  obtain ⟨taken, round, known⟩ := known waiting
  have round := round.append unasked held
  rw [untaken, List.append_nil] at round
  rw [status, mixer]
  exact ⟨taken, round, known⟩

/-- Once the calibration has been taken, it is the only one of its round. -/
lemma Waiting.taken {d : Device T S} {acts : List Act} (known : Waiting acts d)
    (waiting : d.supervisor.calibrating = true) (due : d.status.calibrationDue = false) :
    ∃ samples, InRound acts [samples] ∧ d.steering.mixer = .calibrate samples d.status.settings := by
  obtain ⟨taken, round, known⟩ := known waiting
  rw [due] at known
  obtain ⟨samples, rfl, mixer⟩ := known
  exact ⟨samples, round, mixer⟩

/-- A device that does not wait has no open round to tell of. -/
lemma waiting_of_free {d : Device T S} (free : d.supervisor.calibrating = false) (acts : List Act) :
    Waiting acts d := by
  intro waiting
  rw [free] at waiting
  cases waiting

variable [Transport T] [Store S]

/-- A move keeps track of the open round. -/
lemma Guarded.waiting_move {d d' : Device T S} {acts bs : List Act} (g : d.Guarded)
    (known : Waiting acts d) (h : Move d bs d') : Waiting (acts ++ bs) d' := by
  cases h with
  -- a request opens a round and a calibration enters it; the rest closes it or passes it by
  | sense =>
    rw [List.append_nil]
    exact known
  | sample | interrupt | outside => exact known.append rfl rfl rfl (by simp) (by simp) rfl
  | mix => exact known.append rfl rfl rfl (by simp) (by simp) rfl
  | calibrate due =>
    intro waiting
    obtain ⟨taken, round, known⟩ := known waiting
    rw [if_pos due] at known
    subst known
    exact ⟨_, round.append (by simp) (by simp), _, rfl, rfl⟩
  | step h =>
    cases h with
    | ask start free good =>
      intro _
      refine ⟨[], ?_, rfl⟩
      rw [stepAct, start, free, good]
      exact inRound_ask acts
    | wait start waiting good =>
      apply known.append rfl rfl rfl _ _ rfl
      · simp [stepAct, waiting]
      · simp [stepAct, good]
    | withdraw | launch =>
      apply waiting_of_free
      rfl
    | greet _ free | idle _ free =>
      apply waiting_of_free
      exact free
    | drive driving | brake driving =>
      apply waiting_of_free
      exact (g.settled driving.ne_start).1
    | answer config | listen config =>
      apply waiting_of_free
      exact (g.settled (by simp [config])).1
    | halt fault => exact absurd fault g.sane

/-- A move keeps track of the launch. -/
lemma Guarded.launched_move {d d' : Device T S} {acts bs : List Act} (g : d.Guarded)
    (round : Waiting acts d) (known : Launched acts d) (h : Move d bs d') :
    Launched (acts ++ bs) d' := by
  -- what was launched before stays launched as long as the mixer and the settings do
  have keep : d.Driving → d'.steering.mixer = d.steering.mixer →
      d'.status.settings = d.status.settings → Launched (acts ++ bs) d' := by
    intro driving mixer settings _
    obtain ⟨before, after, samples, rfl, round, known⟩ := known driving
    refine ⟨before, after ++ bs, samples, by simp, round, ?_⟩
    rw [mixer, settings, known]
  cases h with
  | sense | sample | interrupt | outside | mix => exact fun driving => keep driving rfl rfl driving
  | calibrate due =>
    intro driving
    rw [(g.driving driving).2] at due
    cases due
  | step h =>
    cases h with
    | launch start waiting good due =>
      intro _
      obtain ⟨samples, round, mixer⟩ := round.taken waiting due
      refine ⟨acts, [], samples, ?_, round, mixer⟩
      simp [stepAct, start, good]
    | drive driving | brake driving => exact keep driving rfl rfl
    | ask start | idle start | withdraw start | wait start => exact fun h => absurd start h.ne_start
    | greet | answer =>
      intro driving
      simp [Driving] at driving
    | listen config =>
      intro (driving : d.Driving)
      simp [Driving, config] at driving
    | halt fault => exact absurd fault g.sane

/-- Moves keep track of the open round and of the launch. -/
lemma Guarded.rounds {d d' : Device T S} {acts : List Act} (g : d.Guarded)
    (free : d.supervisor.calibrating = false) (start : d.status.phase = .start)
    (h : Moves d acts d') : Waiting acts d' ∧ Launched acts d' := by
  induction h with
  | refl => exact ⟨waiting_of_free free _, fun driving => absurd start driving.ne_start⟩
  | tail first last ih =>
    have g := g.moves first
    exact ⟨g.waiting_move ih.1 last, g.launched_move ih.1 ih.2 last⟩

/-- What holds of a device that has followed the signal since it was `d`, while `bytes` came. -/
structure Steady (d d' : BenchDevice) (bytes : List UInt8) : Prop where
  driving : d'.Driving
  calm : d'.status.calibrationDue = false
  mixer : d'.steering.mixer = d.steering.mixer
  settings : d'.status.settings = d.status.settings
  block : d'.store.block = d.store.block
  incoming : d'.transport.incoming = d.transport.incoming.offer bytes

/-- A device that follows the signal is steady. -/
lemma Guarded.steady {d : BenchDevice} (g : d.Guarded) (driving : d.Driving) : Steady d d [] :=
  ⟨driving, (g.driving driving).2, rfl, rfl, rfl, (Fifo.offer_nil _).symm⟩

section
variable {d d' : BenchDevice} {bytes : List UInt8}

/-- A control update keeps a device steady: no calibration is due. -/
lemma Steady.update (h : Steady d d' bytes) : Steady d d'.update.2 bytes := by
  rw [update_of_calm h.calm]
  exact { h with }

/-- A pulse keeps a device steady. -/
lemma Steady.onPulse (h : Steady d d' bytes) (p : Pulse) : Steady d (d'.onPulse p).2 bytes := by
  unfold Device.onPulse
  cases p.sample? with
  | none => exact h
  | some sample =>
    apply Steady.update
    exact { h with }

/-- Pulses in order keep a device steady. -/
lemma Steady.onPulses (h : Steady d d' bytes) (ps : List Pulse) :
    Steady d (ps.foldl (fun d p => (d.onPulse p).2) d') bytes := by
  induction ps generalizing d' with
  | nil => exact h
  | cons p ps ih => exact ih (h.onPulse p)

/-- A step keeps a device steady: it follows the signal and serves no host. -/
lemma Steady.step (h : Steady d d' bytes) (now : UInt32) : Steady d (d'.step now).2 bytes := by
  have quiet := h.driving.ne_start
  generalize e : (d'.step now).1 = p
  have transition := step_transition d' now
  rw [e] at transition
  generalize (d'.step now).2 = d'' at transition
  cases transition with
  | drive => exact { h with driving := .inl (Status.phase_enter _ _) }
  | brake => exact { h with driving := .inr (Status.phase_enter _ _) }
  | ask start | greet start | idle start | withdraw start | wait start | launch start =>
    exact absurd start quiet
  | answer other | listen other | halt other =>
    have driving := h.driving
    simp [Driving, other] at driving

/-- An event keeps a device steady, apart from the bytes that it brings. -/
lemma Steady.handle (h : Steady d d' bytes) (e : Event) :
    Steady d (d'.handle e) (bytes ++ e.bytes) := by
  cases e with
  | receive more =>
    refine ⟨h.driving, h.calm, h.mixer, h.settings, h.block, ?_⟩
    rw [Event.bytes, Fifo.offer_append, ← h.incoming]
    rfl
  | step now =>
    simp only [Event.bytes, List.append_nil]
    exact h.step now
  | update =>
    simp only [Event.bytes, List.append_nil]
    exact h.update
  | pulse p =>
    simp only [Event.bytes, List.append_nil]
    exact h.onPulse p
  | drain =>
    simp only [Event.bytes, List.append_nil]
    have h := h.onPulses d'.queue.entries
    exact { h with }
  | edge channel now =>
    obtain ⟨queue, frame⟩ := d'.edge_frame channel now
    simp only [Event.bytes, List.append_nil]
    rw [Device.handle, frame]
    exact { h with }
  | watchdog | overflow | compare | collect | failWrites | failLoads =>
    simp only [Event.bytes, List.append_nil]
    exact { h with }

/-- A run keeps a device steady, apart from the bytes that come. -/
lemma Steady.run (h : Steady d d' bytes) (es : List Event) :
    Steady d (d'.run es) (bytes ++ received es) := by
  induction es generalizing d' bytes with
  | nil =>
    rw [received, List.flatMap_nil, List.append_nil]
    exact h
  | cons e es ih =>
    have h := ih (h.handle e)
    rw [List.append_assoc] at h
    exact h

end

/-- Every launch follows a request with exactly one calibration and no bad signal in between. A
device that follows the signal still uses the resting positions of that calibration, with the lines
between them and the travel of the live settings. It follows the signal forever, and neither its
mixer nor its settings nor its store change any more, nor do the bytes that wait, apart from those
that come. -/
theorem calibration_in_force (version : Version) (transport : Loopback) (store : RamStore)
    (es : List Event) :
    let boot := (boot version transport store).2
    let d := boot.run es
    (∀ before good asked after,
      boot.history es = before ++ .step good asked .start .active :: after →
      ∃ samples, InRound before [samples]) ∧
    (d.status.phase = .active ∨ d.status.phase = .failsafe →
      (∃ before good asked after samples c,
        boot.history es = before ++ .step good asked .start .active :: after ∧
        InRound before [samples] ∧ d.steering.mixer.calibration = some c ∧
        c.neutral = samples.map UInt16.toInt16 ∧
        ∀ channel, c.lines.get channel =
          .around (c.neutral.get channel) (d.status.settings.travel.get channel)) ∧
      ∀ fs, Steady d (d.run fs) (received fs)) := by
  intro boot d
  have start : boot.Guarded := guarded_boot version transport store
  have moves : Moves boot (boot.history es) d := moves_run boot es
  have rounds {acts d'} (h : Moves boot acts d') : Waiting acts d' ∧ Launched acts d' :=
    start.rounds rfl rfl h
  constructor
  · intro before good asked after split
    rw [split] at moves
    obtain ⟨d₁, d₂, first, last, -⟩ := moves.split
    obtain ⟨-, source, now, step⟩ := last.step_inv
    cases step with
    | drive driving => exact absurd source driving.ne_start
    | launch start waiting _ due =>
      obtain ⟨samples, round, -⟩ := (rounds first).1.taken waiting due
      exact ⟨samples, round⟩
  · intro driving
    obtain ⟨before, after, samples, split, round, mixer⟩ := (rounds moves).2 driving
    refine ⟨⟨before, true, false, after, samples, .take samples d.status.settings.travel, split, round,
      ?_, rfl, ?_⟩, fun fs => ((start.moves moves).steady driving).run fs⟩
    · rw [mixer]
      rfl
    · intro channel
      cases channel <;> rfl

/-- Once launched with centred sticks, a device stays so. -/
theorem calibration_in_force_launch :
    let d := unset.run launch
    d.status.phase = .active ∧
      (∃ before good asked after samples, unset.history launch =
          before ++ .step good asked .start .active :: after ∧ InRound before [samples]) ∧
      ∀ fs, Steady d (d.run fs) (received fs) := by
  intro d
  have active : d.status.phase = .active := by decide +kernel
  obtain ⟨⟨before, good, asked, after, samples, _, split, round, -⟩, steady⟩ :=
    (calibration_in_force .mixer .empty (.holding Settings.erasedBlock) launch).2 (.inl active)
  exact ⟨active, ⟨before, good, asked, after, samples, split, round⟩, steady⟩

end Device

end SpeedController
