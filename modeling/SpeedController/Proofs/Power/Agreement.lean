import SpeedController.Proofs.Power.Interlock

/-!
# Agreement on a motor

Two drivers agree on a motor if its command, its bridge and its event are the same, and the outputs
are enabled in both or in neither. An order that both obey keeps them in agreement (`Agree.obey`),
and a command for the other motor does not concern them (`agree_set_of_ne`). So two pairs of commands
that agree on the motor keep it, too (`Agree.setBoth`).
-/

namespace SpeedController.Power

/-- The motor that an action concerns. -/
def Action.motor : Action → Motor
  | .leg m _ => m
  | .compare m _ => m

namespace PinStage

/-- The bridge and the event of the motor are the same. -/
structure Agree (m : Motor) (s s' : PinStage) : Prop where
  bridge : s'.bridges.get m = s.bridges.get m
  event : s'.compares.get m = s.compares.get m

variable {m : Motor} {s s' s'' : PinStage}

lemma Agree.refl (m : Motor) (s : PinStage) : s.Agree m s := ⟨rfl, rfl⟩

lemma Agree.symm (h : s.Agree m s') : s'.Agree m s := ⟨h.bridge.symm, h.event.symm⟩

lemma Agree.trans (h : s.Agree m s') (h' : s'.Agree m s'') : s.Agree m s'' :=
  ⟨h'.bridge.trans h.bridge, h'.event.trans h.event⟩

lemma Agree.line_eq (h : s.Agree m s') (leg : Direction) : s'.line m leg = s.line m leg := by
  rw [line, line, h.bridge]

lemma Agree.perform (h : s.Agree m s') (a : Action) : (s.perform a).Agree m (s'.perform a) := by
  cases a with
  | leg m' w =>
    refine ⟨?_, h.event⟩
    by_cases same : m = m'
    · subst same
      rw [PinStage.perform, PinStage.perform, Sides.get_set_self, Sides.get_set_self, h.bridge]
    · rw [PinStage.perform, PinStage.perform, Sides.get_set_of_ne _ _ same,
        Sides.get_set_of_ne _ _ same, h.bridge]
  | compare m' tick =>
    refine ⟨h.bridge, ?_⟩
    by_cases same : m = m'
    · subst same
      rw [PinStage.perform, PinStage.perform, Sides.get_set_self, Sides.get_set_self]
    · rw [PinStage.perform, PinStage.perform, Sides.get_set_of_ne _ _ same,
        Sides.get_set_of_ne _ _ same, h.event]

/-- An action on the other motor goes unnoticed. -/
lemma agree_perform_of_ne (s : PinStage) {a : Action} (other : a.motor ≠ m) :
    s.Agree m (s.perform a) := by
  cases a with
  | leg m' w => exact ⟨Sides.get_set_of_ne _ _ (Ne.symm other), rfl⟩
  | compare m' tick => exact ⟨rfl, Sides.get_set_of_ne _ _ (Ne.symm other)⟩

end PinStage

namespace MotorDriver
open PinStage

section
variable {m : Motor} {s s' : PinStage}

lemma agree_performAll (h : s.Agree m s') (as : List Action) :
    (performAll s as).Agree m (performAll s' as) := by
  induction as generalizing s s' with
  | nil => exact h
  | cons a as ih => exact ih (h.perform a)

lemma agree_performAll_of_ne (s : PinStage) {as : List Action} (other : ∀ a ∈ as, a.motor ≠ m) :
    s.Agree m (performAll s as) := by
  induction as generalizing s with
  | nil => exact .refl m s
  | cons a as ih =>
    have first := s.agree_perform_of_ne (other a List.mem_cons_self)
    exact first.trans (ih _ fun b member => other b (List.mem_cons_of_mem _ member))

end

/-- The command, the bridge and the event of the motor are the same, and the outputs are enabled in
both or in neither. -/
structure Agree (m : Motor) (d d' : MotorDriver PinStage) : Prop where
  enabled : d'.latch.enabled = d.latch.enabled
  command : d'.latch.commands.get m = d.latch.commands.get m
  stage : d.stage.Agree m d'.stage

variable {m : Motor} {d d' d'' : MotorDriver PinStage}

lemma Agree.refl (m : Motor) (d : MotorDriver PinStage) : d.Agree m d := ⟨rfl, rfl, .refl m _⟩

lemma Agree.symm (h : d.Agree m d') : d'.Agree m d :=
  ⟨h.enabled.symm, h.command.symm, h.stage.symm⟩

lemma Agree.trans (h : d.Agree m d') (h' : d'.Agree m d'') : d.Agree m d'' :=
  ⟨h'.enabled.trans h.enabled, h'.command.trans h.command, h.stage.trans h'.stage⟩

/-- The actions of a command or of a compare event concern its motor. -/
lemma motor_of_mem_actions {l : Latch} {a : Action} {m : Motor} {o : Order}
    (own : (∃ c, o = .set m c) ∨ o = .compare m) (member : a ∈ l.actions o) : a.motor = m := by
  rcases own with ⟨c, rfl⟩ | rfl
  · rw [Latch.actions] at member
    split at member
    · rcases List.mem_cons.1 member with rfl | member
      · rfl
      · obtain ⟨w, -, rfl⟩ := List.mem_map.1 member
        rfl
    · rw [List.mem_singleton.1 member]
      rfl
  · rw [Latch.actions] at member
    split at member
    · obtain ⟨w, -, rfl⟩ := List.mem_map.1 member
      rfl
    · cases member

/-- A command for the other motor goes unnoticed. -/
lemma agree_set_of_ne (d : MotorDriver PinStage) {m' : Motor} (c : Command) (other : m' ≠ m) :
    d.Agree m (d.obey (.set m' c)) where
  enabled := rfl
  command := Sides.get_set_of_ne _ _ (Ne.symm other)
  stage := by
    apply agree_performAll_of_ne
    intro a member
    rw [motor_of_mem_actions (.inl ⟨c, rfl⟩) member]
    exact other

/-- An order keeps the agreement. -/
lemma Agree.obey (h : d.Agree m d') (o : Order) : (d.obey o).Agree m (d'.obey o) := by
  cases o with
  | enable => exact ⟨rfl, h.command, h.stage⟩
  | disable => exact ⟨rfl, rfl, agree_performAll h.stage _⟩
  | overflow => exact ⟨h.enabled, h.command, agree_performAll h.stage _⟩
  | set m' c =>
    refine ⟨h.enabled, ?_, agree_performAll h.stage _⟩
    by_cases same : m = m'
    · subst same
      exact (Sides.get_set_self ..).trans (Sides.get_set_self ..).symm
    · exact (Sides.get_set_of_ne _ _ same).trans
        (h.command.trans (Sides.get_set_of_ne _ _ same).symm)
  | compare m' =>
    refine ⟨h.enabled, h.command, ?_⟩
    by_cases same : m' = m
    · -- both do the same about an event of their own motor
      subst same
      have actions : d'.latch.actions (.compare m') = d.latch.actions (.compare m') := by
        simp only [Latch.actions, h.command, h.enabled]
      rw [MotorDriver.obey, MotorDriver.obey, actions]
      exact agree_performAll h.stage _
    · have other (l : Latch) : ∀ a ∈ l.actions (.compare m'), a.motor ≠ m := by
        intro a member
        rw [motor_of_mem_actions (.inr rfl) member]
        exact same
      exact (agree_performAll_of_ne d.stage (other _)).symm.trans
        (h.stage.trans (agree_performAll_of_ne d'.stage (other _)))

lemma Agree.obeyAll (h : d.Agree m d') (os : List Order) :
    (d.obeyAll os).Agree m (d'.obeyAll os) := by
  induction os generalizing d d' with
  | nil => exact h
  | cons o os ih => exact ih (h.obey o)

/-- Commands that only differ for the other motor keep the agreement. -/
lemma Agree.set (h : d.Agree m d') {m' : Motor} {c c' : Command} (same : m' = m → c' = c) :
    (d.obey (.set m' c)).Agree m (d'.obey (.set m' c')) := by
  by_cases own : m' = m
  · rw [same own]
    exact h.obey _
  · exact (agree_set_of_ne d c own).symm.trans (h.trans (agree_set_of_ne d' c' own))

lemma Agree.setBoth {commands commands' : Sides Command} (h : d.Agree m d')
    (same : commands'.get m = commands.get m) :
    (d.setBoth commands).Agree m (d'.setBoth commands') := by
  apply Agree.set
  · apply h.set
    rintro rfl
    exact same
  · rintro rfl
    exact same

end MotorDriver

end SpeedController.Power
