import SpeedController.Proofs.Device.Guard

/-!
# Freshness of the commands

A command is fresh if it was mixed after the last calibration. Commands are mixed and latched in
every phase, a calibration latches none, and only the loss of the signal in a driving phase forgets
them. So the latched commands are those of the last mix, unless the signal was lost since
(`Guarded.origin`), and enabled motors run on a fresh command or on none, except on what was left
over from before the calibration (`command_fresh_iff`). That exception is real: a device that is
calibrated twice before it first drives can start on a command of the first calibration
(`command_left_over`).
-/

namespace SpeedController

open Link Power Receiver
open Settings (Store)

/-- The command was mixed for the motor after the last calibration of the history. -/
def FreshIn (acts : List Act) (m : Motor) (c : Command) : Prop :=
  ∃ before commands after, acts = before ++ .mix commands :: after ∧
    (∃ samples, .calibrate samples ∈ before) ∧ (∀ samples, .calibrate samples ∉ after) ∧
    commands.get m = c

/-- The last command mixed for the motor has a duty, a calibration came after it, and the signal was
not lost since in a driving phase. -/
def LeftOver (acts : List Act) (m : Motor) : Prop :=
  ∃ before commands after, acts = before ++ .mix commands :: after ∧
    (∀ commands, .mix commands ∉ after) ∧ (∃ samples, .calibrate samples ∈ after) ∧
    (∀ good asked source, .step good asked source .failsafe ∉ after) ∧ (commands.get m).duty ≠ 0

/-- No command is fresh while one is left over. -/
lemma LeftOver.not_freshIn {acts : List Act} {m : Motor} (left : LeftOver acts m) (c : Command) :
    ¬FreshIn acts m c := by
  rintro ⟨before', commands', after', split', -, none_after, -⟩
  obtain ⟨before, commands, after, split, last, ⟨samples, taken⟩, -, -⟩ := left
  rcases List.append_eq_append_iff.1 (split.symm.trans split') with ⟨x, -, tail⟩ | ⟨x, -, tail⟩
  · -- the fresh mix would come after the last one
    cases x with
    | nil =>
      injection tail with _ same
      subst same
      exact none_after samples taken
    | cons a x =>
      injection tail with _ same
      exact last commands' (same ▸ List.mem_append_right x List.mem_cons_self)
  · -- the calibration would come after the fresh mix
    cases x with
    | nil =>
      injection tail with _ same
      subst same
      exact none_after samples taken
    | cons a x =>
      injection tail with _ same
      exact none_after samples
        (same ▸ List.mem_append_right x (List.mem_cons_of_mem _ taken))

namespace Device

variable {T S : Type} [Transport T] [Store S]

/-- What a move does to the latched commands. -/
inductive Latching (d d' : Device T S) : List Act → Prop where
  | set :
    Latching d d' [.mix d'.motors.latch.commands]
  | forget {good asked source} :
    d'.motors.latch.commands = .both .brake →
    Latching d d' [.step good asked source .failsafe]
  | keep {acts} :
    d'.motors.latch.commands = d.motors.latch.commands →
    (∀ commands, .mix commands ∉ acts) →
    (∀ good asked source, .step good asked source .failsafe ∉ acts) →
    Latching d d' acts

/-- A move sets the commands, forgets them or keeps them. -/
lemma Guarded.latching {d d' : Device T S} {acts : List Act} (g : d.Guarded) (h : Move d acts d') :
    Latching d d' acts := by
  cases h with
  | sense | sample | outside => exact .keep rfl (by simp) (by simp)
  | calibrate => exact .keep rfl (by simp) (by simp)
  | interrupt event =>
    refine .keep ?_ (by simp) (by simp)
    rcases event with rfl | ⟨m, rfl⟩ <;> rfl
  | mix => exact .set
  | step h =>
    cases h with
    | ask | greet | idle | withdraw | wait | launch | drive | answer | listen =>
      exact .keep rfl (by simp [stepAct]) (by simp [stepAct])
    | brake => exact .forget rfl
    | halt fault => exact absurd fault g.sane

/-- Moves without a mix and without loss of the signal keep the commands. -/
lemma Guarded.commands_eq {d d' : Device T S} {acts : List Act} (g : d.Guarded) (h : Moves d acts d')
    (last : ∀ commands, .mix commands ∉ acts)
    (held : ∀ good asked source, .step good asked source .failsafe ∉ acts) :
    d'.motors.latch.commands = d.motors.latch.commands := by
  induction h with
  | refl => rfl
  | tail first move ih =>
    have same := ih (fun c h => last c (List.mem_append_left _ h))
      (fun a b c h => held a b c (List.mem_append_left _ h))
    cases (g.moves first).latching move with
    | set => exact absurd (List.mem_append_right _ List.mem_cons_self) (last _)
    | forget => exact absurd (List.mem_append_right _ List.mem_cons_self) (held _ _ _)
    | keep kept => exact kept.trans same

/-- The latched commands are the brake, or those of the last mix, with no loss of the signal since. -/
lemma Guarded.origin {d d' : Device T S} {acts : List Act} (g : d.Guarded)
    (idle : d.motors.latch.commands = .both .brake) (h : Moves d acts d') :
    d'.motors.latch.commands = .both .brake ∨
      ∃ before after, acts = before ++ .mix d'.motors.latch.commands :: after ∧
        (∀ commands, .mix commands ∉ after) ∧
        ∀ good asked source, .step good asked source .failsafe ∉ after := by
  induction h with
  | refl => exact .inl idle
  | @tail as bs d' d'' first move ih =>
    cases (g.moves first).latching move with
    | set => exact .inr ⟨as, [], rfl, by simp, by simp⟩
    | forget braked => exact .inl braked
    | keep kept last held =>
      rw [kept]
      rcases ih with braked | ⟨before, after, rfl, last', held'⟩
      · exact .inl braked
      · refine .inr ⟨before, after ++ bs, by simp, fun c => ?_, fun a b c => ?_⟩
        · exact List.not_mem_append (last' c) (last c)
        · exact List.not_mem_append (held' a b c) (held a b c)

/-- A mixer that was calibrated in a run has its calibration in the history. -/
lemma exists_calibrate_of_isSome {d d' : Device T S} {acts : List Act} (h : Moves d acts d')
    (fresh : d.steering.mixer.calibration = none)
    (calibrated : d'.steering.mixer.calibration.isSome = true) : ∃ samples, .calibrate samples ∈ acts := by
  induction h with
  | refl => simp [fresh] at calibrated
  | tail _ move ih =>
    rcases move.mixer_eq with ⟨same, -⟩ | ⟨samples, rfl, -, -⟩
    · rw [same] at calibrated
      obtain ⟨samples, taken⟩ := ih calibrated
      exact ⟨samples, List.mem_append_left _ taken⟩
    · exact ⟨samples, List.mem_append_right _ List.mem_cons_self⟩

/-- The command of an enabled motor has no duty or is fresh, exactly if none was left over from
before the calibration. -/
theorem command_fresh_iff (version : Version) (transport : Loopback) (store : Settings.RamStore)
    (es : List Event) (m : Motor) :
    let boot := (boot version transport store).2
    let d := boot.run es
    d.motors.latch.enabled = true →
    ((d.motors.latch.commands.get m).duty = 0 ∨
        FreshIn (boot.history es) m (d.motors.latch.commands.get m) ↔
      ¬LeftOver (boot.history es) m) := by
  intro boot d enabled
  have moves : Moves boot (boot.history es) d := moves_run boot es
  have start : boot.Guarded := guarded_boot version transport store
  have active : d.status.phase = .active := (start.moves moves).enabled_iff.1 enabled
  generalize boot.history es = acts at moves
  constructor
  · rintro fresh left
    obtain ⟨before, commands, after, rfl, last, -, held, duty⟩ := id left
    -- the commands are still those of the mix in question
    obtain ⟨d₁, d₂, first, mix, rest⟩ := moves.split
    have kept := ((start.moves first).move mix).commands_eq rest last held
    rw [kept, mix.mix_inv] at fresh
    rcases fresh with zero | fresh
    · exact duty zero
    · exact left.not_freshIn _ fresh
  · intro clean
    rcases start.origin rfl moves with braked | ⟨before, after, rfl, last, held⟩
    · left
      rw [braked, Sides.get_both]
      rfl
    by_cases zero : (d.motors.latch.commands.get m).duty = 0
    · exact .inl zero
    · right
      have none_after : ∀ samples, .calibrate samples ∉ after := fun samples taken =>
        clean ⟨before, _, after, rfl, last, ⟨samples, taken⟩, held, zero⟩
      obtain ⟨samples, taken⟩ := exists_calibrate_of_isSome moves rfl
        ((start.moves moves).driving (.inl active)).1
      refine ⟨before, _, after, rfl, ⟨samples, ?_⟩, none_after, rfl⟩
      simpa [none_after samples] using taken

/-- A command that was mixed in the active phase is fresh, and so none is left over. -/
theorem command_fresh_launch :
    (unset.run (launch ++ [.pulse ⟨.ch1, 500, 0⟩])).motors.latch.enabled = true ∧
      ¬LeftOver (unset.history (launch ++ [.pulse ⟨.ch1, 500, 0⟩])) .left := by
  have fresh_iff := command_fresh_iff .mixer .empty (.holding Settings.erasedBlock)
    (launch ++ [.pulse ⟨.ch1, 500, 0⟩]) .left
  refine ⟨by decide +kernel, (fresh_iff (by decide +kernel)).1 (.inr ?_)⟩
  refine ⟨[.step true true .start .start, .calibrate ⟨125, 125⟩, .step true false .start .active],
    ⟨⟨.forward, 64⟩, ⟨.backward, 0⟩⟩, [], ?_, ⟨⟨125, 125⟩, by simp⟩, by simp, ?_⟩
  · decide +kernel
  · decide +kernel

/-- A calibration that is abandoned for want of a signal, a pulse, and a second calibration. -/
def secondThoughts : List Event :=
  goodWindow ++ [.step 0, .update, .watchdog, .step 1, .pulse ⟨.ch1, 500, 0⟩] ++
    goodWindow ++ [.step 2, .update, .step 3, .compare .left]

/-- The pulse between the two calibrations still drives a motor after the second one. -/
theorem command_left_over :
    let d := unset.run secondThoughts
    d.motors.latch.enabled = true ∧ d.motors.stage.line .left .forward = true ∧
      (d.motors.latch.commands.get .left).duty ≠ 0 ∧
      ¬FreshIn (unset.history secondThoughts) .left (d.motors.latch.commands.get .left) := by
  intro d
  have left : LeftOver (unset.history secondThoughts) .left := by
    refine ⟨[.step true true .start .start, .calibrate ⟨125, 125⟩, .step false false .start .start],
      ⟨⟨.forward, 64⟩, ⟨.backward, 0⟩⟩, [.step true true .start .start, .calibrate ⟨156, 125⟩,
      .step true false .start .active], ?_, by simp, ⟨⟨156, 125⟩, by simp⟩, by simp, by decide⟩
    decide +kernel
  have enabled : d.motors.latch.enabled = true := by decide +kernel
  have high : d.motors.stage.line .left .forward = true := by decide +kernel
  have duty : (d.motors.latch.commands.get .left).duty ≠ 0 := by decide +kernel
  exact ⟨enabled, high, duty, left.not_freshIn _⟩

end Device

end SpeedController
