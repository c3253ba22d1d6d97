import SpeedController.Device.Event
import SpeedController.Proofs.Device.Transition

/-!
# Histories

The history of a run lists what its events made the control path do: the calibrations, the commands
and the steps of the supervisor, in order. The queue, the sensors, the timer and the world outside
leave no trace in it.

`Move` breaks the events into moves with at most one entry each, and `Moves` chains them. Every run
is such a chain (`moves_run`), and every entry of a history was made by one of its moves
(`Moves.split`), so a property of runs is an induction over `Moves` with one case per kind of move.
-/

namespace SpeedController

open Link Power Receiver
open Settings (Store)

/-- An entry of a history. -/
inductive Act where
  /-- The averages became the resting positions. -/
  | calibrate (samples : Axes UInt16)
  /-- Commands were mixed and given to the motors. -/
  | mix (commands : Sides Command)
  /-- The supervisor ran: whether it read a good signal, whether it asked for a calibration, and the
  phase before and after. -/
  | step (good asked : Bool) (source target : Phase)
  deriving DecidableEq, Repr

/-- The resting positions that were taken in a history. -/
def calibrations (acts : List Act) : List (Axes UInt16) :=
  acts.filterMap fun
    | .calibrate samples => some samples
    | _ => none

namespace Device

variable {T S : Type}

/-- A window with too few pulses ends with a loss, and what was seen is forgotten. -/
lemma watchdog_of_few {d : Device T S} (few : d.acquisition.count < fewestGoodPulses) :
    d.watchdog = (.lost, { d with acquisition := .start, status.signalGood := false }) := by
  simp only [watchdog, Acquisition.closeWindow, few, if_true]
  rfl

/-- A window with enough pulses ends with a signal, and the next one begins. -/
lemma watchdog_of_enough {d : Device T S} (enough : ¬d.acquisition.count < fewestGoodPulses) :
    d.watchdog = (.good, { d with
      acquisition := { d.acquisition with count := 0, good := true }
      status.signalGood := true }) := by
  simp only [watchdog, Acquisition.closeWindow, enough, if_false]
  rfl

/-- A control update takes a calibration that is due. -/
lemma update_of_due {d : Device T S} (due : d.status.calibrationDue = true) :
    d.update = (none, { d with
      status.calibrationDue := false
      steering := d.steering.calibrate d.status.settings }) := by
  simp only [update, Status.takeCalibration, due]

/-- A control update mixes when no calibration is due. -/
lemma update_of_calm {d : Device T S} (calm : d.status.calibrationDue = false) :
    d.update = (some (d.steering.commands d.status.settings),
      { d with motors := d.motors.setBoth (d.steering.commands d.status.settings) }) := by
  simp only [update, Status.takeCalibration, calm]

/-- A pulse without a sample is dropped. -/
lemma onPulse_of_unsampled {p : Pulse} (d : Device T S) (unsampled : p.sample? = none) :
    d.onPulse p = (none, d) := by
  rw [onPulse, unsampled]

/-- A sample is followed by a mix when no calibration is due. -/
lemma onPulse_of_calm {d : Device T S} {p : Pulse} {sample : UInt16}
    (calm : d.status.calibrationDue = false) (sampled : p.sample? = some sample) :
    (d.onPulse p).2 = { d with
      steering := d.steering.push p.channel sample
      motors := d.motors.setBoth
        ((d.steering.push p.channel sample).commands d.status.settings) } := by
  let pushed := { d with steering := d.steering.push p.channel sample }
  have calm : pushed.status.calibrationDue = false := calm
  rw [onPulse, sampled]
  exact congrArg Prod.snd (update_of_calm calm)

/-- A control update changes the mixer, the due calibration and the motors, and nothing else. -/
lemma update_frame (d : Device T S) :
    ∃ due steering motors,
      d.update.2 = { d with status.calibrationDue := due, steering, motors } := by
  cases due : d.status.calibrationDue with
  | true => exact ⟨false, _, d.motors, by rw [update_of_due due]⟩
  | false => exact ⟨d.status.calibrationDue, d.steering, _, by rw [update_of_calm due]⟩

/-- A pulse changes the average of its channel besides. -/
lemma onPulse_frame (d : Device T S) (p : Pulse) :
    ∃ due steering motors,
      (d.onPulse p).2 = { d with status.calibrationDue := due, steering, motors } := by
  unfold onPulse
  cases p.sample? with
  | none => exact ⟨d.status.calibrationDue, d.steering, d.motors, rfl⟩
  | some sample =>
    obtain ⟨due, steering, motors, frame⟩ :=
      update_frame { d with steering := d.steering.push p.channel sample }
    exact ⟨due, steering, motors, frame⟩

lemma acquisition_onPulse (d : Device T S) (p : Pulse) :
    (d.onPulse p).2.acquisition = d.acquisition := by
  obtain ⟨due, steering, motors, frame⟩ := d.onPulse_frame p
  rw [frame]

/-- An edge changes the acquisition, and the queue at most. -/
lemma edge_frame (d : Device T S) (channel : Channel) (now : UInt16) :
    ∃ queue, (d.edge channel now).2 =
      { d with acquisition := (d.acquisition.edge channel now).2, queue } := by
  unfold Device.edge
  rcases d.acquisition.edge channel now with ⟨_ | pulse, acquisition⟩
  · exact ⟨d.queue, rfl⟩
  · dsimp only
    split
    · exact ⟨_, rfl⟩
    · exact ⟨d.queue, rfl⟩

variable [Transport T] [Store S]

/-- What a control update does. -/
def updateAct (d : Device T S) : Act :=
  if d.status.calibrationDue then .calibrate d.steering.samples
  else .mix (d.steering.commands d.status.settings)

/-- What the control loop does about a pulse. -/
def pulseActs (d : Device T S) (p : Pulse) : List Act :=
  match p.sample? with
  | none => []
  | some sample => [{ d with steering := d.steering.push p.channel sample }.updateAct]

/-- What the control loop does about pulses in order. -/
def drainActs (d : Device T S) : List Pulse → List Act
  | [] => []
  | p :: ps => d.pulseActs p ++ (d.onPulse p).2.drainActs ps

/-- The entry of a step that leads to the device `d'` in phase `p`. -/
def stepAct (d d' : Device T S) (p : Phase) : Act :=
  .step d.status.signalGood (!d.supervisor.calibrating && d'.supervisor.calibrating) d.status.phase p

/-- What an event makes the control path do. -/
def acts (d : BenchDevice) : Event → List Act
  | .drain => d.drainActs d.queue.entries
  | .pulse p => d.pulseActs p
  | .update => [d.updateAct]
  | .step now => [d.stepAct (d.step now).2 (d.step now).1]
  | _ => []

/-- What a sequence of events makes the control path do. -/
def history (d : BenchDevice) : List Event → List Act
  | [] => []
  | e :: es => d.acts e ++ (d.handle e).history es

/-- The smallest changes of a device, with their entries in the history. -/
inductive Move (d : Device T S) : List Act → Device T S → Prop where
  /-- Edges are taken, windows are closed, pulses are queued and taken off the queue. -/
  | sense {acquisition queue good} :
    Move d [] { d with acquisition, queue, status.signalGood := good }
  /-- A sample enters an average. -/
  | sample {channel sample} :
    Move d [] { d with steering := d.steering.push channel sample }
  /-- A due calibration is taken. -/
  | calibrate :
    d.status.calibrationDue = true →
    Move d [.calibrate d.steering.samples] { d with
      status.calibrationDue := false
      steering := d.steering.calibrate d.status.settings }
  /-- Commands are mixed and latched. -/
  | mix :
    d.status.calibrationDue = false →
    Move d [.mix (d.steering.commands d.status.settings)]
      { d with motors := d.motors.setBoth (d.steering.commands d.status.settings) }
  /-- The supervisor runs. -/
  | step {now p d'} :
    Transition d now p d' →
    Move d [d.stepAct d' p] d'
  /-- The timer of the motors interrupts. -/
  | interrupt {o} :
    o = .overflow ∨ (∃ m, o = .compare m) →
    Move d [] (d.order o)
  /-- Bytes come and go, and the store begins or ceases to fail. -/
  | outside {transport store} :
    Move d [] { d with transport, store }

/-- Moves in order, with the history that they make. -/
inductive Moves (d : Device T S) : List Act → Device T S → Prop where
  | refl :
    Moves d [] d
  | tail {as bs d' d''} :
    Moves d as d' → Move d' bs d'' → Moves d (as ++ bs) d''

/-- A single move. -/
lemma Move.moves {d d' : Device T S} {as : List Act} (h : Move d as d') : Moves d as d' :=
  .tail .refl h

/-- Moves can be chained. -/
lemma Moves.trans {d d' d'' : Device T S} {as bs : List Act} (h : Moves d as d')
    (h' : Moves d' bs d'') : Moves d (as ++ bs) d'' := by
  induction h' with
  | refl =>
    rw [List.append_nil]
    exact h
  | tail _ last ih =>
    rw [← List.append_assoc]
    exact ih.tail last

/-- A control update is a move. -/
lemma moves_update (d : Device T S) : Moves d [d.updateAct] d.update.2 := by
  cases due : d.status.calibrationDue with
  | true =>
    have act : d.updateAct = .calibrate d.steering.samples := if_pos due
    rw [act, update_of_due due]
    exact (Move.calibrate due).moves
  | false =>
    have act : d.updateAct = .mix (d.steering.commands d.status.settings) := if_neg (by simp [due])
    rw [act, update_of_calm due]
    exact (Move.mix due).moves

/-- A pulse makes moves. -/
lemma moves_onPulse (d : Device T S) (p : Pulse) : Moves d (d.pulseActs p) (d.onPulse p).2 := by
  unfold pulseActs onPulse
  cases p.sample? with
  | none => exact .refl
  | some sample => exact Move.sample.moves.trans (moves_update _)

/-- Pulses in order make moves. -/
lemma moves_onPulses (d : Device T S) (ps : List Pulse) :
    Moves d (d.drainActs ps) (ps.foldl (fun d p => (d.onPulse p).2) d) := by
  induction ps generalizing d with
  | nil => exact .refl
  | cons p ps ih => exact (moves_onPulse d p).trans (ih _)

/-- The moves of an event. -/
lemma moves_handle (d : BenchDevice) (e : Event) : Moves d (d.acts e) (d.handle e) := by
  cases e with
  | edge channel now =>
    obtain ⟨queue, frame⟩ := d.edge_frame channel now
    show Moves d [] (d.edge channel now).2
    rw [frame]
    exact Move.sense.moves
  | watchdog => exact Move.sense.moves
  | drain =>
    show Moves d (d.drainActs d.queue.entries) _
    rw [← List.append_nil (d.drainActs d.queue.entries)]
    exact (moves_onPulses d d.queue.entries).tail .sense
  | pulse p => exact moves_onPulse d p
  | update => exact moves_update d
  | step now => exact (Move.step (step_transition d now)).moves
  | overflow => exact (Move.interrupt (.inl rfl)).moves
  | compare m => exact (Move.interrupt (.inr ⟨m, rfl⟩)).moves
  | receive bytes => exact Move.outside.moves
  | collect => exact Move.outside.moves
  | failWrites fail => exact Move.outside.moves
  | failLoads fail => exact Move.outside.moves

/-- The moves of a run. -/
theorem moves_run (d : BenchDevice) (es : List Event) : Moves d (d.history es) (d.run es) := by
  induction es generalizing d with
  | nil => exact .refl
  | cons e es ih => exact (moves_handle d e).trans (ih _)

/-- Only the supervisor makes an entry of a step. -/
lemma Move.step_inv {d d' : Device T S} {good asked : Bool} {source target : Phase}
    (h : Move d [.step good asked source target] d') :
    d.status.signalGood = good ∧ d.status.phase = source ∧ ∃ now, Transition d now target d' := by
  generalize e : [Act.step good asked source target] = acts at h
  cases h with
  | step h =>
    cases e
    exact ⟨rfl, rfl, _, h⟩
  | sense | sample | calibrate | mix | interrupt | outside => cases e

/-- Commands that were mixed are latched. -/
lemma Move.mix_inv {d d' : Device T S} {commands : Sides Command} (h : Move d [.mix commands] d') :
    d'.motors.latch.commands = commands := by
  generalize e : [Act.mix commands] = acts at h
  cases h with
  | mix =>
    cases e
    rfl
  | sense | sample | calibrate | step | interrupt | outside => cases e

/-- A step leaves the averages and the mixer alone. -/
lemma Transition.steering_eq {d d' : Device T S} {now : UInt32} {p : Phase}
    (h : Transition d now p d') : d'.steering = d.steering := by
  cases h <;> rfl

/-- Only a calibration changes the mixer. -/
lemma Move.mixer_eq {d d' : Device T S} {acts : List Act} (h : Move d acts d') :
    (d'.steering.mixer = d.steering.mixer ∧ calibrations acts = []) ∨
      ∃ samples, acts = [.calibrate samples] ∧ d.status.calibrationDue = true ∧
        d'.steering.mixer = .calibrate samples d.status.settings := by
  cases h with
  | sense | sample | mix | interrupt | outside => exact .inl ⟨rfl, rfl⟩
  | calibrate due => exact .inr ⟨_, rfl, due, rfl⟩
  | step h => exact .inl ⟨congrArg Steering.mixer h.steering_eq, rfl⟩

/-- A move makes at most one entry. -/
lemma Move.eq_nil_or_singleton {d d' : Device T S} {as : List Act} (h : Move d as d') :
    as = [] ∨ ∃ a, as = [a] := by
  cases h with
  | calibrate | mix | step => exact .inr ⟨_, rfl⟩
  | sense | sample | interrupt | outside => exact .inl rfl

/-- Every entry of a history was made by one of the moves. -/
lemma Moves.split {d d' : Device T S} {before after : List Act} {a : Act}
    (h : Moves d (before ++ a :: after) d') :
    ∃ d₁ d₂, Moves d before d₁ ∧ Move d₁ [a] d₂ ∧ Moves d₂ after d' := by
  generalize e : before ++ a :: after = as at h
  induction h generalizing after with
  | refl => simp at e
  | @tail as bs d' d'' first last ih =>
    rcases last.eq_nil_or_singleton with rfl | ⟨b, rfl⟩
    · rw [List.append_nil] at e
      obtain ⟨d₁, d₂, h₁, h, h₂⟩ := ih e
      have h₂ := h₂.tail last
      rw [List.append_nil] at h₂
      exact ⟨d₁, d₂, h₁, h, h₂⟩
    · -- the last entry of the history is either the one in question or one of those behind it
      rcases List.eq_nil_or_concat after with rfl | ⟨after, c, rfl⟩
      · obtain ⟨rfl, same⟩ := List.append_inj' e rfl
        cases same
        exact ⟨d', d'', first, last, .refl⟩
      · rw [List.concat_eq_append, ← List.cons_append, ← List.append_assoc] at e
        obtain ⟨prior, same⟩ := List.append_inj' e rfl
        cases same
        obtain ⟨d₁, d₂, h₁, h, h₂⟩ := ih prior
        rw [List.concat_eq_append]
        exact ⟨d₁, d₂, h₁, h, h₂.tail last⟩

/-- A device that is powered up for the first time. -/
def unset : BenchDevice := (boot .mixer .empty (.holding Settings.erasedBlock)).2

end Device

/-- A window with enough good pulses, up to its end. -/
def goodWindow : List Event :=
  (List.replicate 20 [.edge .ch1 0, .edge .ch1 375]).flatten ++ [.watchdog]

/-- The way from power-up to the active phase. -/
def launch : List Event := goodWindow ++ [.step 0, .update, .step 1]

end SpeedController
