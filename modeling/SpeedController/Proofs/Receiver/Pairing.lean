import Mathlib.Data.List.Basic
import Mathlib.Tactic.Lemma
import SpeedController.Receiver.Acquisition

/-!
# Pairing of edges

A log lists what the receiver saw, edges with their true times and ends of watchdog windows, and what
came of it. As long as no window is lost, the edges of a channel pair up, and each pair is a pulse
(`Paired`, `paired_log`). A window counts the pulses of both channels (`count_after`). What comes of
a channel only depends on its own edges between two windows (`pulses_filter`), so it does not matter
how the edges of both channels are interleaved (`log_congr`). The main statement is
`pulses_true_and_counted`.
-/

namespace SpeedController.Receiver

/-- Something that the receiver sees: an edge of a channel, or the end of a watchdog window. -/
inductive Sight where
  | edge (channel : Channel) (time : Nat)
  | closing
  deriving DecidableEq, Repr

/-- Whether a sight concerns a channel. The end of a window concerns both. -/
def Sight.concerns (c : Channel) : Sight → Bool
  | .edge c' _ => c' = c
  | .closing => true

/-- An entry of a log: an edge with the pulse that it completes, or a window with its verdict. -/
inductive Entry where
  | edge (channel : Channel) (time : Nat) (pulse : Option Pulse)
  | closing (verdict : Signal)
  deriving DecidableEq, Repr

namespace Entry

/-- The times of the edges of a channel. -/
def times (c : Channel) (log : List Entry) : List Nat :=
  log.filterMap fun
    | .edge c' time _ => if c' = c then some time else none
    | .closing _ => none

/-- The pulses that the edges of a channel complete. -/
def pulses (c : Channel) (log : List Entry) : List Pulse :=
  log.filterMap fun
    | .edge c' _ pulse => if c' = c then pulse else none
    | .closing _ => none

/-- The verdicts on the windows. -/
def verdicts (log : List Entry) : List Signal :=
  log.filterMap fun
    | .edge .. => none
    | .closing verdict => some verdict

/-- No window was lost. -/
def Unbroken (log : List Entry) : Prop := .closing .lost ∉ log

/-- No window was closed. -/
def Open (log : List Entry) : Prop := ∀ verdict, .closing verdict ∉ log

end Entry

/-- The edges of a channel, first with second, third with fourth and so on, and a pulse for each pair,
with the true time between its edges as long as the counter can tell it. -/
inductive Paired (c : Channel) : List Nat → List Pulse → Prop where
  | none :
    Paired c [] []
  | half {rise} :
    Paired c [rise] []
  | pulse {rise fall times p pulses} :
    p.channel = c → p.capturedAt = .ofNat fall →
    (fall - rise < 65536 → p.width.toNat = fall - rise) →
    Paired c times pulses →
    Paired c (rise :: fall :: times) (p :: pulses)

namespace Acquisition
open Entry

/-- Take a sight. Times are read off a counter of 16 bits. -/
def see (a : Acquisition) : Sight → Entry × Acquisition
  | .edge channel time =>
    let (pulse, a) := a.edge channel (.ofNat time)
    (.edge channel time pulse, a)
  | .closing =>
    let (verdict, a) := a.closeWindow
    (.closing verdict, a)

/-- The log of sights in order. -/
def log (a : Acquisition) : List Sight → List Entry
  | [] => []
  | s :: ss => (a.see s).1 :: (a.see s).2.log ss

/-- What the sights leave behind. -/
def after (a : Acquisition) (ss : List Sight) : Acquisition := ss.foldl (fun a s => (a.see s).2) a

@[simp] lemma after_cons (a : Acquisition) (s : Sight) (ss : List Sight) :
    a.after (s :: ss) = (a.see s).2.after ss := rfl

@[simp] lemma log_cons (a : Acquisition) (s : Sight) (ss : List Sight) :
    a.log (s :: ss) = (a.see s).1 :: (a.see s).2.log ss := rfl

lemma after_append (a : Acquisition) (ss ts : List Sight) :
    a.after (ss ++ ts) = (a.after ss).after ts := List.foldl_append

lemma log_append (a : Acquisition) (ss ts : List Sight) :
    a.log (ss ++ ts) = a.log ss ++ (a.after ss).log ts := by
  induction ss generalizing a with
  | nil => rfl
  | cons s ss ih => rw [List.cons_append, log_cons, log_cons, ih, after_cons, List.cons_append]

/-- The parts of a log are the logs of the parts. -/
lemma log_eq_append {a : Acquisition} {ss : List Sight} {before rest : List Entry}
    (split : a.log ss = before ++ rest) :
    ∃ ss₁ ss₂, ss = ss₁ ++ ss₂ ∧ a.log ss₁ = before ∧ (a.after ss₁).log ss₂ = rest := by
  induction before generalizing a ss with
  | nil => exact ⟨[], ss, rfl, rfl, split⟩
  | cons e before ih =>
    cases ss with
    | nil => cases split
    | cons s ss =>
      rw [log_cons, List.cons_append] at split
      injection split with head tail
      obtain ⟨ss₁, ss₂, rfl, rfl, rest⟩ := ih tail
      exact ⟨s :: ss₁, ss₂, rfl, by rw [log_cons, head], rest⟩

/-- What the detector of a channel does about an edge. -/
inductive Taken (a : Acquisition) (c : Channel) (time : Nat) : Entry → Acquisition → Prop where
  | rise :
    a.detectors.get c = .waiting →
    Taken a c time (.edge c time none)
      { a with detectors := a.detectors.set c (.timing (.ofNat time)) }
  | fall {begun} :
    a.detectors.get c = .timing begun →
    Taken a c time (.edge c time (some ⟨c, .ofNat time - begun, .ofNat time⟩))
      { a with
        detectors := a.detectors.set c .waiting
        count := min (a.count + 1) pulseCountLimit }

lemma taken_edge (a : Acquisition) (c : Channel) (time : Nat) :
    Taken a c time (a.see (.edge c time)).1 (a.see (.edge c time)).2 := by
  cases state : a.detectors.get c with
  | waiting =>
    have taken : Taken a c time _ _ := .rise state
    simpa only [see, Acquisition.edge, state, EdgeDetector.edge] using taken
  | timing begun =>
    have taken : Taken a c time _ _ := .fall state
    simpa only [see, Acquisition.edge, state, EdgeDetector.edge] using taken

lemma Taken.get_of_ne {a a' : Acquisition} {c c' : Channel} {time : Nat} {e : Entry}
    (taken : Taken a c time e a') (other : c' ≠ c) :
    a'.detectors.get c' = a.detectors.get c' := by
  cases taken <;> exact Axes.get_set_of_ne _ _ other

lemma see_closing_of_few {a : Acquisition} (few : a.count < fewestGoodPulses) :
    a.see .closing = (.closing .lost, start) := by
  simp only [see, closeWindow, few, if_true]

lemma see_closing_of_enough {a : Acquisition} (enough : ¬a.count < fewestGoodPulses) :
    a.see .closing = (.closing .good, { a with count := 0, good := true }) := by
  simp only [see, closeWindow, enough, if_false]

/-- The detector of a channel, and the time of the edge that it has seen of a pair. -/
inductive Pending : EdgeDetector → List Nat → Prop where
  | waiting :
    Pending .waiting []
  | timing {rise} :
    Pending (.timing (.ofNat rise)) [rise]

/-- The width of a pulse is true as long as the counter can tell it. -/
lemma toNat_width {rise fall : Nat} (ordered : rise ≤ fall) (short : fall - rise < 65536) :
    (UInt16.ofNat fall - UInt16.ofNat rise).toNat = fall - rise := by
  rw [UInt16.toNat_sub, UInt16.toNat_ofNat', UInt16.toNat_ofNat']
  omega

/-- As long as no window is lost the edges of a channel pair up, the pending one first. -/
lemma paired_log {a : Acquisition} {c : Channel} {rises : List Nat}
    (pending : Pending (a.detectors.get c) rises) (ss : List Sight)
    (unbroken : Unbroken (a.log ss))
    (ordered : (rises ++ times c (a.log ss)).Pairwise (· ≤ ·)) :
    Paired c (rises ++ times c (a.log ss)) (pulses c (a.log ss)) := by
  induction ss generalizing a rises with
  | nil =>
    generalize a.detectors.get c = d at pending
    cases pending with
    | waiting => exact .none
    | timing => exact .half
  | cons s ss ih =>
    rw [log_cons] at unbroken ordered ⊢
    have unbroken' : Unbroken ((a.see s).2.log ss) := fun lost => unbroken (List.mem_cons_of_mem _ lost)
    cases s with
    | closing =>
      -- a window that is not lost leaves the detectors as they are
      by_cases few : a.count < fewestGoodPulses
      · rw [see_closing_of_few few] at unbroken
        exact absurd List.mem_cons_self unbroken
      · rw [see_closing_of_enough few] at unbroken' ordered ⊢
        exact ih pending unbroken' ordered
    | edge c' time =>
      have taken := a.taken_edge c' time
      generalize (a.see (.edge c' time)).1 = e at taken ordered ⊢
      generalize (a.see (.edge c' time)).2 = a' at taken ordered unbroken' ⊢
      by_cases same : c' = c
      · subst same
        cases taken with
        | rise state =>
          rw [state] at pending
          cases pending
          have timing : Pending ((a.detectors.set c' (.timing (.ofNat time))).get c') [time] := by
            rw [Axes.get_set_self]
            exact .timing
          simp only [times, pulses, List.filterMap_cons, if_true, List.nil_append] at ordered ⊢
          exact ih timing unbroken' ordered
        | fall state =>
          rw [state] at pending
          cases pending
          have again : Pending ((a.detectors.set c' .waiting).get c') [] := by
            rw [Axes.get_set_self]
            exact .waiting
          simp only [times, pulses, List.filterMap_cons, if_true, List.singleton_append] at ordered ⊢
          obtain ⟨first, -, rest⟩ := by simpa only [List.pairwise_cons] using ordered
          exact .pulse rfl rfl (toNat_width (first _ List.mem_cons_self))
            (ih again unbroken' rest)
      · -- an edge of the other channel counts for nothing
        have other : c ≠ c' := Ne.symm same
        rw [← taken.get_of_ne other] at pending
        have skip : times c (e :: a'.log ss) = times c (a'.log ss) ∧
            pulses c (e :: a'.log ss) = pulses c (a'.log ss) := by
          cases taken <;> simp [times, pulses, same]
        rw [skip.1] at ordered ⊢
        rw [skip.2]
        exact ih pending unbroken' ordered

lemma Taken.count_eq {a a' : Acquisition} {c : Channel} {time : Nat} {e : Entry}
    (taken : Taken a c time e a') (bound : a.count ≤ pulseCountLimit) :
    a'.count =
      min (a.count + ((pulses .ch1 [e]).length + (pulses .ch2 [e]).length)) pulseCountLimit := by
  cases taken with
  | rise => cases c <;> exact (Nat.min_eq_left bound).symm
  | fall => cases c <;> rfl

lemma pulses_cons (c : Channel) (e : Entry) (log : List Entry) :
    pulses c (e :: log) = pulses c [e] ++ pulses c log :=
  List.filterMap_append (l := [e])

/-- Within a window the counter counts the pulses of both channels, as far as it goes. -/
lemma count_after {a : Acquisition} (ss : List Sight) (opened : Open (a.log ss))
    (bound : a.count ≤ pulseCountLimit) :
    (a.after ss).count = min (a.count + ((pulses .ch1 (a.log ss)).length +
      (pulses .ch2 (a.log ss)).length)) pulseCountLimit := by
  induction ss generalizing a with
  | nil => exact (Nat.min_eq_left bound).symm
  | cons s ss ih =>
    cases s with
    | closing => exact absurd List.mem_cons_self (opened _)
    | edge c time =>
      have taken := (a.taken_edge c time).count_eq bound
      have rest := ih (fun v member => opened v (List.mem_cons_of_mem _ member)) (by omega)
      rw [after_cons, rest, taken, log_cons, pulses_cons .ch1 _ (log _ ss),
        pulses_cons .ch2 _ (log _ ss), List.length_append, List.length_append]
      omega

lemma good_after {a : Acquisition} {ss : List Sight} (opened : .closing ∉ ss) :
    (a.after ss).good = a.good := by
  induction ss generalizing a with
  | nil => rfl
  | cons s ss ih =>
    cases s with
    | closing => exact absurd List.mem_cons_self opened
    | edge c time =>
      have taken := a.taken_edge c time
      rw [after_cons, ih fun member => opened (List.mem_cons_of_mem _ member)]
      generalize (a.see (.edge c time)).1 = e at taken
      generalize (a.see (.edge c time)).2 = a' at taken ⊢
      cases taken <;> rfl

lemma open_log {a : Acquisition} {ss : List Sight} (opened : .closing ∉ ss) : Open (a.log ss) := by
  induction ss generalizing a with
  | nil => exact fun _ => List.not_mem_nil
  | cons s ss ih =>
    cases s with
    | closing => exact absurd List.mem_cons_self opened
    | edge c time =>
      intro verdict member
      rcases List.mem_cons.1 member with head | member
      · cases head
      · exact ih (fun member => opened (List.mem_cons_of_mem _ member)) verdict member

/-- Within a window a channel does not notice the edges of the other one. -/
lemma pulses_filter {a a' : Acquisition} {c : Channel}
    (same : a.detectors.get c = a'.detectors.get c) {ss : List Sight} (opened : .closing ∉ ss) :
    pulses c (a.log ss) = pulses c (a'.log (ss.filter (Sight.concerns c))) ∧
      (a.after ss).detectors.get c =
        (a'.after (ss.filter (Sight.concerns c))).detectors.get c := by
  induction ss generalizing a a' with
  | nil => exact ⟨rfl, same⟩
  | cons s ss ih =>
    have opened' := fun member => opened (List.mem_cons_of_mem s member)
    cases s with
    | closing => exact absurd List.mem_cons_self opened
    | edge c' time =>
      have taken := a.taken_edge c' time
      rw [log_cons, after_cons]
      generalize (a.see (.edge c' time)).1 = e at taken ⊢
      generalize (a.see (.edge c' time)).2 = b at taken ⊢
      by_cases own : c' = c
      · subst own
        have taken' := a'.taken_edge c' time
        rw [List.filter_cons_of_pos (by simp [Sight.concerns]), log_cons, after_cons]
        generalize (a'.see (.edge c' time)).1 = e' at taken' ⊢
        generalize (a'.see (.edge c' time)).2 = b' at taken' ⊢
        -- both detectors are in the same state, and so they do the same
        have alike : pulses c' [e] = pulses c' [e'] ∧ b.detectors.get c' = b'.detectors.get c' := by
          cases taken with
          | rise state =>
            cases taken' with
            | rise => exact ⟨rfl, by rw [Axes.get_set_self, Axes.get_set_self]⟩
            | fall state' => cases (state.symm.trans same).trans state'
          | fall state =>
            cases taken' with
            | rise state' => cases (state.symm.trans same).trans state'
            | fall state' =>
              cases (state.symm.trans same).trans state'
              exact ⟨rfl, by rw [Axes.get_set_self, Axes.get_set_self]⟩
        obtain ⟨rest, last⟩ := ih alike.2 opened'
        rw [pulses_cons c' e, pulses_cons c' e', alike.1, rest]
        exact ⟨rfl, last⟩
      · have skip : pulses c (e :: b.log ss) = pulses c (b.log ss) := by
          cases taken <;> simp [pulses, own]
        rw [List.filter_cons_of_neg (by simp [Sight.concerns, own]), skip]
        exact ih ((taken.get_of_ne (Ne.symm own)).trans same) opened'

/-- Two interleavings of the same edges within a window complete the same pulses and leave the same
behind. -/
lemma window_congr {a : Acquisition} {ss ss' : List Sight} (opened : .closing ∉ ss)
    (opened' : .closing ∉ ss') (bound : a.count ≤ pulseCountLimit)
    (same : ∀ c, ss'.filter (Sight.concerns c) = ss.filter (Sight.concerns c)) :
    (∀ c, pulses c (a.log ss') = pulses c (a.log ss)) ∧ a.after ss' = a.after ss := by
  have each (c : Channel) : pulses c (a.log ss') = pulses c (a.log ss) ∧
      (a.after ss').detectors.get c = (a.after ss).detectors.get c := by
    have own : a.detectors.get c = a.detectors.get c := rfl
    have one := pulses_filter own opened
    have two := pulses_filter own opened'
    rw [same c] at two
    exact ⟨two.1.trans one.1.symm, two.2.trans one.2.symm⟩
  have detectors : (a.after ss').detectors = (a.after ss).detectors :=
    Axes.eq_of_get fun c => (each c).2
  have count : (a.after ss').count = (a.after ss).count := by
    rw [count_after ss' (open_log opened') bound, count_after ss (open_log opened) bound,
      (each .ch1).1, (each .ch2).1]
  have good : (a.after ss').good = (a.after ss).good := by
    rw [good_after opened, good_after opened']
  exact ⟨fun c => (each c).1, by rw [Acquisition.mk.injEq]; exact ⟨detectors, count, good⟩⟩

lemma append_cons_unique {α : Type} {x : α} {as as' bs bs' : List α} (first : x ∉ as)
    (first' : x ∉ as') (same : as ++ x :: bs = as' ++ x :: bs') : as = as' ∧ bs = bs' := by
  rcases List.append_eq_append_iff.1 same with ⟨cs, rfl, tail⟩ | ⟨cs, rfl, tail⟩
  · cases cs with
    | nil =>
      injection tail with _ tail
      exact ⟨(List.append_nil _).symm, tail⟩
    | cons c cs =>
      injection tail with head
      subst head
      exact absurd (List.mem_append_right _ List.mem_cons_self) first'
  · cases cs with
    | nil =>
      injection tail with _ tail
      exact ⟨List.append_nil _, tail.symm⟩
    | cons c cs =>
      injection tail with head
      subst head
      exact absurd (List.mem_append_right _ List.mem_cons_self) first

lemma verdicts_of_open {log : List Entry} (opened : Open log) : verdicts log = [] := by
  rw [verdicts, List.filterMap_eq_nil_iff]
  intro e member
  cases e with
  | edge => rfl
  | closing verdict => exact absurd member (opened verdict)

/-- Two interleavings of the same edges complete the same pulses and get the same verdicts. -/
lemma log_congr {a : Acquisition} {ss ss' : List Sight} (bound : a.count ≤ pulseCountLimit)
    (same : ∀ c, ss'.filter (Sight.concerns c) = ss.filter (Sight.concerns c)) :
    (∀ c, pulses c (a.log ss') = pulses c (a.log ss)) ∧
      verdicts (a.log ss') = verdicts (a.log ss) := by
  -- on the number of sights, window by window
  induction length : ss.length using Nat.strongRecOn generalizing a ss ss' with
  | ind n ih =>
    have closed_iff : .closing ∈ ss' ↔ .closing ∈ ss := by
      have member (ts : List Sight) : .closing ∈ ts.filter (Sight.concerns .ch1) ↔ .closing ∈ ts := by
        simp [Sight.concerns]
      rw [← member, same, member]
    by_cases closed : .closing ∈ ss
    · obtain ⟨w', rest', rfl, opened'⟩ := List.eq_append_cons_of_mem (closed_iff.2 closed)
      obtain ⟨w, rest, rfl, opened⟩ := List.eq_append_cons_of_mem closed
      have parts (c : Channel) : w'.filter (Sight.concerns c) = w.filter (Sight.concerns c) ∧
          rest'.filter (Sight.concerns c) = rest.filter (Sight.concerns c) := by
        have split := same c
        rw [List.filter_append, List.filter_append, List.filter_cons_of_pos rfl,
          List.filter_cons_of_pos rfl] at split
        exact append_cons_unique (fun member => opened' (List.mem_filter.1 member).1)
          (fun member => opened (List.mem_filter.1 member).1) split
      obtain ⟨window, left⟩ := window_congr opened opened' bound fun c => (parts c).1
      have fresh : ((a.after w).see .closing).2.count ≤ pulseCountLimit := by
        by_cases few : (a.after w).count < fewestGoodPulses
        · rw [see_closing_of_few few]
          exact Nat.zero_le _
        · rw [see_closing_of_enough few]
          exact Nat.zero_le _
      have shorter : rest.length < n := by
        rw [List.length_append, List.length_cons] at length
        omega
      obtain ⟨later, rest⟩ := ih rest.length shorter fresh (fun c => (parts c).2) rfl
      rw [log_append, log_append, left, log_cons, log_cons]
      refine ⟨fun c => ?_, ?_⟩
      · simp only [pulses, List.filterMap_append, List.filterMap_cons] at window later ⊢
        rw [window, later]
      · have quiet := verdicts_of_open (open_log (a := a) opened)
        have quiet' := verdicts_of_open (open_log (a := a) opened')
        simp only [verdicts, List.filterMap_append, List.filterMap_cons] at quiet quiet' rest ⊢
        rw [quiet, quiet', rest]
    · have opened' := fun member => closed (closed_iff.1 member)
      obtain ⟨window, -⟩ := window_congr closed opened' bound same
      refine ⟨window, ?_⟩
      rw [verdicts_of_open (open_log closed), verdicts_of_open (open_log opened')]

lemma verdict_eq_good_iff {a : Acquisition} {verdict : Signal}
    (judged : (a.see .closing).1 = .closing verdict) :
    verdict = .good ↔ fewestGoodPulses ≤ a.count := by
  by_cases few : a.count < fewestGoodPulses
  · rw [see_closing_of_few few] at judged
    cases judged
    simpa using few
  · rw [see_closing_of_enough few] at judged
    cases judged
    simpa using few

/-- The end of a window leaves the counter at 0, and nothing at all if the window was lost. -/
lemma after_closing {a : Acquisition} {ss : List Sight} {verdict : Signal}
    (ended : (a.log ss).getLast? = some (.closing verdict)) :
    (a.after ss).count = 0 ∧ (verdict = .lost → a.after ss = start) := by
  obtain ⟨before, split⟩ := List.getLast?_eq_some_iff.1 ended
  obtain ⟨ss₁, ss₂, rfl, -, last⟩ := log_eq_append split
  rw [after_append]
  match ss₂, last with
  | [.closing], last =>
    rw [log_cons] at last
    injection last with last
    rw [after_cons]
    by_cases few : (a.after ss₁).count < fewestGoodPulses
    · rw [see_closing_of_few few]
      exact ⟨rfl, fun _ => rfl⟩
    · rw [see_closing_of_enough few] at last ⊢
      cases last
      exact ⟨rfl, nofun⟩

/-- From the start or a lost window on, as long as no window is lost, the edges of either channel
pair up, whether windows end between them or not; so a lost window forgets a pulse that was seen
half, and a good one does not. Each pair yields one pulse, with its true width if the counter can
tell it. A window is good exactly if it saw at least 20 pulses, however many. What comes of a channel
and the verdicts do not depend on how the edges of both channels are interleaved within a window. -/
theorem pulses_true_and_counted (ss : List Sight)
    (ordered : ∀ c, (times c (start.log ss)).Pairwise (· ≤ ·)) :
    let log := start.log ss
    (∀ before stretch rest, log = before ++ stretch ++ rest →
      before = [] ∨ before.getLast? = some (.closing .lost) → Unbroken stretch →
      ∀ c, Paired c (times c stretch) (pulses c stretch)) ∧
    (∀ before window verdict rest, log = before ++ window ++ .closing verdict :: rest →
      before = [] ∨ (∃ last, before.getLast? = some (.closing last)) → Open window →
      (verdict = .good ↔ 20 ≤ (pulses .ch1 window).length + (pulses .ch2 window).length)) ∧
    ∀ ss', (∀ c, ss'.filter (Sight.concerns c) = ss.filter (Sight.concerns c)) →
      (∀ c, pulses c (start.log ss') = pulses c log) ∧
        verdicts (start.log ss') = verdicts log := by
  intro log
  refine ⟨?_, ?_, fun ss' => log_congr (Nat.zero_le _)⟩
  · intro before stretch rest split since unbroken c
    obtain ⟨ss₁, ss₂, rfl, first, -⟩ := log_eq_append split
    obtain ⟨ss₀, ss₁, rfl, rfl, rfl⟩ := log_eq_append first
    have fresh : start.after ss₀ = start := by
      rcases since with nothing | lost
      · cases ss₀ with
        | nil => rfl
        | cons => cases nothing
      · exact (after_closing lost).2 rfl
    have pending : Pending ((start.after ss₀).detectors.get c) [] := by
      rw [fresh]
      cases c <;> exact .waiting
    have within : List.Sublist ((start.after ss₀).log ss₁) log := by
      rw [split]
      exact (List.sublist_append_right _ _).trans (List.sublist_append_left _ _)
    exact paired_log pending ss₁ unbroken ((ordered c).sublist (within.filterMap _))
  · intro before window verdict rest split since opened
    obtain ⟨ss₁, ss₂, rfl, first, last⟩ := log_eq_append split
    obtain ⟨ss₀, ss₁, rfl, rfl, rfl⟩ := log_eq_append first
    have fresh : (start.after ss₀).count = 0 := by
      rcases since with nothing | ⟨_, closed⟩
      · cases ss₀ with
        | nil => rfl
        | cons => cases nothing
      · exact (after_closing closed).1
    have counted := count_after ss₁ opened (by omega)
    rw [fresh, ← after_append] at counted
    cases ss₂ with
    | nil => cases last
    | cons s ss₂ =>
      cases s with
      | edge => cases last
      | closing =>
        rw [log_cons] at last
        injection last with judged
        rw [verdict_eq_good_iff judged, counted]
        simp only [fewestGoodPulses, pulseCountLimit]
        omega

/-- A channel whose pulse lasts beyond the end of a good window and almost as long as the counter can
tell; then a lost window forgets the front of a pulse of the other channel. -/
theorem pulses_true_and_counted_long :
    let frames : List Sight := (List.range 20).flatMap fun i =>
      [.edge .ch1 (3000 * i), .edge .ch1 (3000 * i + 375)]
    let ss := frames ++ [.edge .ch2 60000, .closing, .edge .ch2 125500, .edge .ch1 130000, .closing,
      .edge .ch1 140000, .edge .ch1 140400]
    let log := start.log ss
    (∀ c, (times c log).Pairwise (· ≤ ·)) ∧
      Paired .ch2 [60000, 125500] [⟨.ch2, 65500, 59964⟩] ∧
      Paired .ch1 [140000, 140400] [⟨.ch1, 400, 9328⟩] ∧
      20 ≤ (pulses .ch1 (log.take 41)).length + (pulses .ch2 (log.take 41)).length := by
  intro frames ss log
  have ordered : ∀ c, (times c log).Pairwise (· ≤ ·) := by
    intro c
    cases c <;> decide +kernel
  obtain ⟨paired, counted, -⟩ := pulses_true_and_counted ss ordered
  refine ⟨ordered, ?_, ?_, ?_⟩
  · have long := paired [] (log.take 44) (log.drop 44) (by decide +kernel) (.inl rfl)
      (by unfold Unbroken; decide +kernel) .ch2
    have times : times .ch2 (log.take 44) = [60000, 125500] := by decide +kernel
    have pulses : pulses .ch2 (log.take 44) = [⟨.ch2, 65500, 59964⟩] := by decide +kernel
    rwa [times, pulses] at long
  · have later := paired (log.take 45) (log.drop 45) [] (by decide +kernel)
      (.inr (by decide +kernel)) (by unfold Unbroken; decide +kernel) .ch1
    have times : times .ch1 (log.drop 45) = [140000, 140400] := by decide +kernel
    have pulses : pulses .ch1 (log.drop 45) = [⟨.ch1, 400, 9328⟩] := by decide +kernel
    rwa [times, pulses] at later
  · refine (counted [] (log.take 41) .good (log.drop 42) (by decide +kernel) (.inl rfl) ?_).1 rfl
    intro verdict
    cases verdict <;> decide +kernel

end Acquisition

end SpeedController.Receiver
