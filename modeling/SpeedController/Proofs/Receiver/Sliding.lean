import Mathlib.Algebra.Order.BigOperators.Group.List
import Mathlib.Algebra.Order.Group.Nat
import Mathlib.Data.List.DropRight
import SpeedController.Proofs.Receiver.Average

/-!
# Sliding windows

Seen from outside, a window holds the last values of a history: the copies that filled it last, and
behind them the values pushed since (`values`). Its entries are always the end of that list
(`entries_changeAll`), however often the ring has come round, and so the mean is that of the last
values alone. The main statement is `sliding_mean`.
-/

namespace SpeedController.Receiver.Window

/-- Something done to a window: a value is pushed, or all slots are filled with one. -/
inductive Change where
  | push (value : UInt16)
  | reset (value : UInt16)
  deriving DecidableEq, Repr

variable {n : Nat}

section
variable [@NeZero Nat .ofOfNat0 n]

/-- The window after a change. -/
def change (w : Window n) : Change → Window n
  | .push value => w.push value
  | .reset value => filled value

/-- The window after changes in turn. -/
def changeAll (w : Window n) (cs : List Change) : Window n := cs.foldl change w

lemma changeAll_concat (w : Window n) (cs : List Change) (c : Change) :
    w.changeAll (cs ++ [c]) = (w.changeAll cs).change c := List.foldl_concat ..

end

/-- The `n` copies of the value that filled the window last, and the values pushed since. -/
def values (n : Nat) (init : UInt16) (cs : List Change) : List UInt16 :=
  cs.foldl (fun before c =>
    match c with
    | .push value => before ++ [value]
    | .reset value => .replicate n value) (.replicate n init)

lemma values_push (n : Nat) (init : UInt16) (cs : List Change) (value : UInt16) :
    values n init (cs ++ [.push value]) = values n init cs ++ [value] := List.foldl_concat ..

lemma values_reset (n : Nat) (init : UInt16) (cs : List Change) (value : UInt16) :
    values n init (cs ++ [.reset value]) = .replicate n value := List.foldl_concat ..

lemma le_length_values (n : Nat) (init : UInt16) (cs : List Change) :
    n ≤ (values n init cs).length := by
  induction cs using List.reverseRecOn with
  | nil => exact Nat.le_of_eq List.length_replicate.symm
  | append_singleton cs c ih =>
    cases c with
    | push value =>
      rw [values_push, List.length_append]
      omega
    | reset value => exact Nat.le_of_eq (by rw [values_reset, List.length_replicate])

/-- The last `n` values after one more. -/
lemma rtake_concat {l : List UInt16} (some_slots : 0 < n) (full : n ≤ l.length) (value : UInt16) :
    (l ++ [value]).rtake n = (l.rtake n).tail ++ [value] := by
  obtain ⟨m, rfl⟩ := Nat.exists_eq_add_one.2 some_slots
  have dropped : l.length - (m + 1) + 1 = l.length - m := by omega
  rw [List.rtake_concat_succ, List.rtake, List.rtake, List.tail_drop, dropped]

lemma rtake_replicate (n : Nat) (value : UInt16) :
    (List.replicate n value).rtake n = .replicate n value := by
  rw [List.rtake, List.length_replicate, Nat.sub_self, List.drop_zero]

variable {w : Window n}

/-- A value that no entry is below is not above the mean. -/
lemma le_mean {bound : UInt16} (each : ∀ v ∈ w.entries, bound ≤ v) (some_slots : 0 < n)
    (fits : n ≤ 65537) : bound ≤ w.mean := by
  have sum := List.card_nsmul_le_sum (w.entries.map UInt16.toNat) bound.toNat fun x member => by
    obtain ⟨v, inside, rfl⟩ := List.mem_map.1 member
    exact UInt16.le_iff_toNat_le.1 (each v inside)
  rw [List.length_map, length_entries, Nat.nsmul_eq_mul, Nat.mul_comm] at sum
  rwa [UInt16.le_iff_toNat_le, toNat_mean fits, Nat.le_div_iff_mul_le some_slots]

/-- No part of the sum is too large for a word. -/
lemma sum_take_lt (fits : n ≤ 65537) (k : Nat) :
    ((w.slots.toList.take k).map UInt16.toNat).sum < 2 ^ 32 := by
  have bound := sum_le_of_forall_le (l := w.slots.toList.take k)
    fun v _ => Nat.le_of_lt_succ v.toNat_lt
  have length : (w.slots.toList.take k).length ≤ n := by
    rw [List.length_take, Vector.length_toList]
    exact Nat.min_le_right k n
  calc ((w.slots.toList.take k).map UInt16.toNat).sum
    _ ≤ (w.slots.toList.take k).length * 65535 := bound
    _ ≤ 65537 * 65535 := Nat.mul_le_mul_right _ (length.trans fits)
    _ < 2 ^ 32 := by decide

section
variable [@NeZero Nat .ofOfNat0 n]

/-- The entries are the last of the values, oldest first. -/
lemma entries_changeAll (init : UInt16) (cs : List Change) :
    ((filled init : Window n).changeAll cs).entries = (values n init cs).rtake n := by
  induction cs using List.reverseRecOn with
  | nil => exact (entries_filled init).trans (rtake_replicate n init).symm
  | append_singleton cs c ih =>
    rw [changeAll_concat]
    cases c with
    | push value =>
      rw [change, entries_push, ih, values_push,
        rtake_concat (Nat.pos_of_neZero n) (le_length_values n init cs)]
    | reset value => rw [change, entries_filled, values_reset, rtake_replicate]

/-- Pushes of one value settle the last entries on it. -/
lemma Settled.changeAll {value : UInt16} {k : Nat} (settled : w.Settled value k) (m : Nat) :
    (w.changeAll (.replicate m (.push value))).Settled value (k + m) := by
  induction m with
  | zero => exact settled
  | succ m ih =>
    rw [List.replicate_succ', changeAll_concat]
    exact ih.push

/-- Let `window` be the last `n` of all values, the copies that filled a window of `n` slots last and
the values pushed since. Then the mean is their sum, divided by `n` and rounded down; no part of the
sum is too large for a 32-bit word, and the quotient is not too large for a 16-bit word. So the mean
lies within any bounds of these values, no older value matters to it, and after `n` pushes of one
value it is that value. -/
theorem sliding_mean (fits : n ≤ 65537) (init : UInt16) (cs : List Change) :
    let w := (filled init : Window n).changeAll cs
    let window := (values n init cs).rtake n
    window.length = n ∧
    (∀ k, ((w.slots.toList.take k).map UInt16.toNat).sum < 2 ^ 32) ∧
    w.sum.toNat = (window.map UInt16.toNat).sum ∧
    (window.map UInt16.toNat).sum / n < 2 ^ 16 ∧
    w.mean.toNat = (window.map UInt16.toNat).sum / n ∧
    (∀ low high, (∀ v ∈ window, low ≤ v ∧ v ≤ high) → low ≤ w.mean ∧ w.mean ≤ high) ∧
    (∀ init' cs', (values n init' cs').rtake n = window →
      ((filled init' : Window n).changeAll cs').mean = w.mean) ∧
    ∀ value, (w.changeAll (.replicate n (.push value))).mean = value := by
  intro w window
  have some_slots : 0 < n := Nat.pos_of_neZero n
  have entries : w.entries = window := entries_changeAll init cs
  have mean := w.toNat_mean fits
  rw [entries] at mean
  refine ⟨?_, sum_take_lt fits, ?_, ?_, mean, ?_, ?_, ?_⟩
  · rw [← entries, length_entries]
  · rw [toNat_sum fits, entries]
  · rw [← mean]
    exact w.mean.toNat_lt
  · intro low high bounds
    rw [← entries] at bounds
    exact ⟨le_mean (fun v member => (bounds v member).1) some_slots fits,
      Within.mean_le (fun v member => (bounds v member).2) fits⟩
  · intro init' cs' same
    apply UInt16.toNat_inj.1
    rw [mean, toNat_mean fits, entries_changeAll, same]
  · intro value
    have settled := (w.settled_zero value).changeAll n
    exact settled.mean_eq (Nat.le_add_left n 0) some_slots fits

end

/-- In the largest window all slots but one hold the largest value. The sum is the second largest of
its words, and one value below the others takes the mean down to it. -/
theorem sliding_mean_largest :
    let w := (filled 0 : Window 65537).changeAll [.push 7, .reset 65535, .push 65534]
    65537 ≤ 65537 ∧ w.sum.toNat = 2 ^ 32 - 2 ∧ w.mean = 65534 := by
  intro w
  have window : (values 65537 0 [.push 7, .reset 65535, .push 65534]).rtake 65537 =
      .replicate 65536 65535 ++ [65534] := by
    have last := rtake_concat (n := 65537) (l := .replicate 65537 65535) (by decide)
      (Nat.le_of_eq List.length_replicate.symm) 65534
    rwa [rtake_replicate, List.tail_replicate] at last
  have total : ((List.replicate 65536 (65535 : UInt16) ++ [65534]).map UInt16.toNat).sum =
      2 ^ 32 - 2 := by
    rw [List.map_append, List.sum_append_nat, List.map_replicate, List.sum_replicate_nat]
    rfl
  obtain ⟨-, -, sum, -, mean, -⟩ :=
    sliding_mean (n := 65537) (by decide) 0 [.push 7, .reset 65535, .push 65534]
  rw [window, total] at sum mean
  exact ⟨Nat.le_refl _, sum, UInt16.toNat_inj.1 mean⟩

end SpeedController.Receiver.Window
