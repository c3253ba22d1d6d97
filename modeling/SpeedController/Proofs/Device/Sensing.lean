import SpeedController.Proofs.Device.History

/-!
# Sensing

What events do to the sensors and the queue. Only edges, closing windows and drains reach them. An
edge completes a pulse or none, and a pulse that is completed counts and is queued or refused
(`Noted`). Everything that is queued is in the answers to the edges (`entries_edge`).
-/

namespace SpeedController

open Link Receiver
open Settings (Store)

/-- Whether an event reaches the sensors or the queue. -/
def Event.isSensory : Event → Bool
  | .edge _ _ | .watchdog | .drain => true
  | _ => false

namespace Device

/-- What an event is answered if it completes a pulse: the pulse, and whether it was queued. -/
def sensed (d : BenchDevice) : Event → Option (Pulse × Bool)
  | .edge channel now => (d.edge channel now).1
  | _ => none

/-- The pulse that an event completes, whether or not it is queued. -/
def completed (d : BenchDevice) (e : Event) : List Pulse := (d.sensed e).toList.map Prod.fst

/-- The pulse that an event queues. -/
def accepted (d : BenchDevice) (e : Event) : List Pulse :=
  ((d.sensed e).toList.filter Prod.snd).map Prod.fst

/-- The queue and the count of pulses at an answer: a pulse that is completed counts, and it is queued
or refused. -/
inductive Noted (d d' : BenchDevice) : Option (Pulse × Bool) → Prop where
  | nothing :
    d'.queue = d.queue → d'.acquisition.count = d.acquisition.count →
    Noted d d' none
  | queued {p} :
    d'.queue.entries = d.queue.entries ++ [p] →
    d'.acquisition.count = min (d.acquisition.count + 1) pulseCountLimit →
    Noted d d' (some (p, true))
  | refused {p} :
    d.queue.length = pulseSlots - 1 → d'.queue = d.queue →
    d'.acquisition.count = min (d.acquisition.count + 1) pulseCountLimit →
    Noted d d' (some (p, false))

lemma noted_edge (d : BenchDevice) (channel : Channel) (now : UInt16) :
    Noted d (d.edge channel now).2 (d.edge channel now).1 := by
  unfold Device.edge Acquisition.edge
  rcases (d.acquisition.detectors.get channel).edge now with ⟨_ | width, detector⟩
  · exact .nothing rfl rfl
  · dsimp only
    cases pushed : d.queue.push? ⟨channel, width, now⟩ with
    | some queue => exact .queued (Fifo.entries_of_append? pushed) rfl
    | none =>
      have full := Fifo.append?_eq_none_iff.1 pushed
      have fits := d.queue.length_le
      rw [List.length_singleton] at full
      exact .refused (Nat.le_antisymm fits (Nat.lt_succ_iff.1 full)) rfl rfl

lemma Noted.entries {d d' : BenchDevice} {answer : Option (Pulse × Bool)} (h : Noted d d' answer) :
    d'.queue.entries = d.queue.entries ++ (answer.toList.filter Prod.snd).map Prod.fst := by
  cases h with
  | nothing queue | refused _ queue => simp [queue]
  | queued entries => exact entries

/-- An edge adds the pulse that it queues at the end. -/
lemma entries_edge (d : BenchDevice) (channel : Channel) (now : UInt16) :
    (d.edge channel now).2.queue.entries = d.queue.entries ++ d.accepted (.edge channel now) :=
  (d.noted_edge channel now).entries

lemma acquisition_edge (d : BenchDevice) (channel : Channel) (now : UInt16) :
    (d.edge channel now).2.acquisition = (d.acquisition.edge channel now).2 := by
  obtain ⟨queue, frame⟩ := d.edge_frame channel now
  rw [frame]

/-- A first edge queues nothing. -/
lemma accepted_edge_of_waiting {d : BenchDevice} {channel : Channel} (now : UInt16)
    (waiting : d.acquisition.detectors.get channel = .waiting) :
    d.accepted (.edge channel now) = [] := by
  simp only [accepted, sensed, edge, Acquisition.edge, waiting, EdgeDetector.edge]
  rfl

/-- A second edge queues a pulse if there is room. -/
lemma accepted_edge_of_timing {d : BenchDevice} {channel : Channel} {rise : UInt16} (now : UInt16)
    (timing : d.acquisition.detectors.get channel = .timing rise) :
    d.accepted (.edge channel now) =
      if d.queue.length < pulseSlots - 1 then [⟨channel, now - rise, now⟩] else [] := by
  simp only [accepted, sensed, edge, Acquisition.edge, timing, EdgeDetector.edge]
  by_cases room : d.queue.length < pulseSlots - 1
  · obtain ⟨queue, pushed, -⟩ := Fifo.exists_push? ⟨channel, now - rise, now⟩ room
    rw [pushed, if_pos room]
    rfl
  · have full : d.queue.push? ⟨channel, now - rise, now⟩ = none :=
      Fifo.append?_eq_none_iff.2 (Nat.lt_succ_of_le (Nat.not_lt.1 room))
    rw [full, if_neg room]
    rfl

lemma acquisition_pulses (d : BenchDevice) (ps : List Pulse) :
    (d.run (ps.map .pulse)).acquisition = d.acquisition := by
  induction ps generalizing d with
  | nil => rfl
  | cons p ps ih =>
    rw [List.map_cons, run_cons, ih]
    exact d.acquisition_onPulse p

/-- A drain takes the waiting pulses into account and empties the queue. -/
lemma drain_snd (d : BenchDevice) :
    d.drain.2 = { d.run (d.queue.entries.map .pulse) with queue := .empty } := by
  rw [run, List.foldl_map]
  rfl

lemma acquisition_drain (d : BenchDevice) : d.drain.2.acquisition = d.acquisition := by
  rw [drain_snd]
  exact d.acquisition_pulses d.queue.entries

lemma Transition.unsensed {T S : Type} [Transport T] [Store S] {d d' : Device T S} {now : UInt32}
    {p : Phase} (h : Transition d now p d') :
    d'.acquisition = d.acquisition ∧ d'.queue = d.queue := by
  cases h <;> exact ⟨rfl, rfl⟩

lemma unsensed_handle (d : BenchDevice) {e : Event} (quiet : e.isSensory = false) :
    (d.handle e).acquisition = d.acquisition ∧ (d.handle e).queue = d.queue := by
  cases e with
  | edge | watchdog | drain => cases quiet
  | step now => exact (step_transition d now).unsensed
  | pulse p =>
    obtain ⟨due, steering, motors, frame⟩ := d.onPulse_frame p
    rw [handle, frame]
    exact ⟨rfl, rfl⟩
  | update =>
    obtain ⟨due, steering, motors, frame⟩ := d.update_frame
    rw [handle, frame]
    exact ⟨rfl, rfl⟩
  | overflow | compare | receive | collect | failWrites | failLoads => exact ⟨rfl, rfl⟩

end Device

end SpeedController
