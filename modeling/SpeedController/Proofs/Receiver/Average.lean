import Mathlib.Algebra.GroupWithZero.Nat
import Mathlib.Tactic.Lemma
import SpeedController.Receiver.Window

/-!
# Moving averages

A push drops the oldest entry of a window and puts the new value behind the others (`entries_push`),
and the mean is that of the entries (`toNat_mean`), as long as their sum fits into a word. `Settled`
says of how many of the last entries a value is known; a window that only holds one value has that
value as its mean (`Settled.mean_eq`). `Alike` compares two windows in their last entries; once these
are all entries, the means are the same (`Alike.mean_eq`), wherever the rings began.
-/

namespace SpeedController.Receiver.Window

variable {n : Nat} {w : Window n} {value : UInt16}

/-- The ring from the oldest entry to its end, and then from its beginning. -/
lemma entries_eq (w : Window n) :
    w.entries = w.slots.toList.drop w.cursor ++ w.slots.toList.take w.cursor := by
  have length : w.slots.toList.length = n := by simp
  have inside := w.cursor.isLt
  unfold entries List.rotateLeft
  dsimp only
  rw [length]
  split
  · -- a ring of one slot begins where it ends
    rw [show w.cursor.val = 0 by omega, List.drop_zero, List.take_zero, List.append_nil]
  · rw [Nat.mod_eq_of_lt inside]

lemma mem_entries {v : UInt16} : v ∈ w.entries ↔ v ∈ w.slots := by
  rw [← Vector.mem_toList_iff, entries_eq, List.mem_append, or_comm, ← List.mem_append,
    List.take_append_drop]

lemma length_entries (w : Window n) : w.entries.length = n := by
  have inside := w.cursor.isLt
  rw [entries_eq, List.length_append, List.length_drop, List.length_take, Vector.length_toList]
  omega

lemma entries_filled [@NeZero Nat .ofOfNat0 n] (value : UInt16) :
    (filled value : Window n).entries = List.replicate n value := by
  rw [entries_eq]
  exact List.append_nil _

lemma entries_push (w : Window n) (value : UInt16) :
    (w.push value).entries = w.entries.tail ++ [value] := by
  have inside : w.cursor.val < w.slots.toList.length := by simp
  have cursor : (w.push value).cursor.val = (w.cursor + 1) % n := rfl
  have slots : (w.push value).slots.toList =
      w.slots.toList.take w.cursor ++ value :: w.slots.toList.drop (w.cursor + 1) := by
    rw [push, Vector.toList_set, List.set_eq_take_append_cons_drop, if_pos inside]
  have front : (w.slots.toList.take w.cursor).length = w.cursor := by
    rw [List.length_take]
    omega
  rw [entries_eq, entries_eq, slots, cursor, List.tail_append_of_ne_nil (by simp),
    List.tail_drop]
  by_cases last : w.cursor + 1 = n
  · -- the cursor goes back to the beginning, and nothing stands behind the new value
    rw [last, Nat.mod_self, List.drop_zero, List.take_zero, List.append_nil,
      List.drop_eq_nil_of_le (by simp), List.nil_append]
  · have front : (w.slots.toList.take w.cursor ++ [value]).length = w.cursor + 1 := by
      rw [List.length_append, List.length_take, List.length_singleton]
      omega
    rw [Nat.mod_eq_of_lt (by omega), List.append_cons, List.drop_left' front, List.take_left' front,
      List.append_assoc]

/-- The entries are the slots in another order. -/
lemma sum_entries (w : Window n) :
    (w.entries.map UInt16.toNat).sum = (w.slots.toList.map UInt16.toNat).sum := by
  rw [entries_eq, List.map_append, List.sum_append, Nat.add_comm, ← List.sum_append,
    ← List.map_append, List.take_append_drop]

lemma sum_le_of_forall_le {l : List UInt16} {bound : Nat} (each : ∀ v ∈ l, v.toNat ≤ bound) :
    (l.map UInt16.toNat).sum ≤ l.length * bound := by
  induction l with
  | nil => exact Nat.zero_le _
  | cons v l ih =>
    have first := each v List.mem_cons_self
    have rest := ih fun v member => each v (List.mem_cons_of_mem _ member)
    rw [List.map_cons, List.sum_cons, List.length_cons, Nat.add_mul, Nat.one_mul]
    omega

lemma sum_entries_le (w : Window n) : (w.entries.map UInt16.toNat).sum ≤ n * 65535 := by
  have bound := sum_le_of_forall_le (l := w.entries) fun v _ => Nat.le_of_lt_succ v.toNat_lt
  rwa [length_entries] at bound

/-- The sum of a word is the sum of the entries, cut to the word. -/
lemma toNat_sum_mod (w : Window n) :
    w.sum.toNat = (w.entries.map UInt16.toNat).sum % 2 ^ 32 := by
  -- the total wraps, and so does the sum
  have summed : ∀ (l : List UInt16) (total : UInt32),
      (l.foldl (fun total v => total + v.toUInt32) total).toNat =
        (total.toNat + (l.map UInt16.toNat).sum) % 2 ^ 32 := by
    intro l
    induction l with
    | nil =>
      intro total
      exact (Nat.mod_eq_of_lt total.toNat_lt).symm
    | cons v l ih =>
      intro total
      rw [List.foldl_cons, ih, UInt32.toNat_add, UInt16.toNat_toUInt32, List.map_cons, List.sum_cons,
        Nat.mod_add_mod, Nat.add_assoc]
  rw [sum, ← Vector.foldl_toList, summed, sum_entries]
  exact congrArg (· % 2 ^ 32) (Nat.zero_add _)

/-- The sum of a word is that of the entries, if that fits. -/
lemma toNat_sum (fits : n ≤ 65537) : w.sum.toNat = (w.entries.map UInt16.toNat).sum := by
  have bound := w.sum_entries_le
  rw [toNat_sum_mod, Nat.mod_eq_of_lt (by omega)]

/-- The mean is that of the entries, rounded down, if the sum fits into a word. -/
lemma toNat_mean (fits : n ≤ 65537) :
    w.mean.toNat = (w.entries.map UInt16.toNat).sum / n := by
  have quotient : (w.entries.map UInt16.toNat).sum / n < 2 ^ 16 :=
    Nat.lt_of_le_of_lt (Nat.div_le_of_le_mul w.sum_entries_le) (by decide)
  rw [mean, UInt32.toNat_toUInt16, UInt32.toNat_div, toNat_sum fits, UInt32.toNat_ofNat',
    Nat.mod_eq_of_lt (show n < 2 ^ 32 by omega), Nat.mod_eq_of_lt quotient]

/-- The last `k` entries are all the same value. -/
def Settled (w : Window n) (value : UInt16) (k : Nat) : Prop :=
  ∀ v ∈ w.entries.drop (n - k), v = value

lemma settled_zero (w : Window n) (value : UInt16) : w.Settled value 0 := by
  intro v member
  rw [Nat.sub_zero, List.drop_eq_nil_of_le (Nat.le_of_eq w.length_entries)] at member
  cases member

lemma settled_filled [@NeZero Nat .ofOfNat0 n] (value : UInt16) (k : Nat) :
    (filled value : Window n).Settled value k := by
  intro v member
  have member := List.mem_of_mem_drop member
  rw [entries_filled] at member
  exact List.eq_of_mem_replicate member

lemma Settled.push {k : Nat} (settled : w.Settled value k) :
    (w.push value).Settled value (k + 1) := by
  intro v member
  rw [entries_push, List.drop_append] at member
  rcases List.mem_append.1 member with member | member
  · rw [List.drop_tail] at member
    exact settled v (List.drop_subset_drop_left _ (by omega) member)
  · exact List.mem_singleton.1 (List.mem_of_mem_drop member)

/-- A window that only holds one value has it as its mean. -/
lemma Settled.mean_eq {k : Nat} (settled : w.Settled value k) (full : n ≤ k) (some_slots : 0 < n)
    (fits : n ≤ 65537) : w.mean = value := by
  have all : w.entries = List.replicate n value := by
    refine List.eq_replicate_iff.2 ⟨w.length_entries, fun v member => settled v ?_⟩
    rwa [Nat.sub_eq_zero_of_le full]
  have mean : w.mean.toNat = value.toNat := by
    rw [toNat_mean fits, all, List.map_replicate, List.sum_replicate_nat, Nat.mul_div_cancel_left _ some_slots]
  exact UInt16.toNat_inj.1 mean

/-- The last `k` entries of both windows are the same. -/
def Alike (w w' : Window n) (k : Nat) : Prop := w'.entries.drop (n - k) = w.entries.drop (n - k)

section
variable {w' : Window n} {k : Nat}

lemma alike_zero (w w' : Window n) : w.Alike w' 0 := by
  unfold Alike
  rw [Nat.sub_zero, List.drop_eq_nil_of_le (Nat.le_of_eq w.length_entries),
    List.drop_eq_nil_of_le (Nat.le_of_eq w'.length_entries)]

lemma Alike.push (alike : w.Alike w' k) (value : UInt16) :
    (w.push value).Alike (w'.push value) (k + 1) := by
  have tail : w'.entries.tail.drop (n - (k + 1)) = w.entries.tail.drop (n - (k + 1)) := by
    have later : n - (k + 1) + 1 = n - k + (n - (k + 1) + 1 - (n - k)) := by omega
    rw [List.drop_tail, List.drop_tail, later, ← List.drop_drop, ← List.drop_drop, alike]
  unfold Alike
  rw [entries_push, entries_push, List.drop_append, List.drop_append, tail, List.length_tail,
    List.length_tail, length_entries, length_entries]

/-- Windows that hold the same values in any rotation have the same mean. -/
lemma Alike.mean_eq (alike : w.Alike w' k) (full : n ≤ k) (fits : n ≤ 65537) :
    w'.mean = w.mean := by
  have entries : w'.entries = w.entries := by
    have alike : w'.entries.drop (n - k) = w.entries.drop (n - k) := alike
    rwa [Nat.sub_eq_zero_of_le full] at alike
  apply UInt16.toNat_inj.1
  rw [toNat_mean fits, toNat_mean fits, entries]

end

section
variable {bound : UInt16}

/-- No entry exceeds the bound. -/
def Within (w : Window n) (bound : UInt16) : Prop := ∀ v ∈ w.entries, v ≤ bound

instance : Decidable (w.Within bound) := List.decidableBAll (· ≤ bound) w.entries

lemma Within.mono {bound' : UInt16} (within : w.Within bound) (le : bound ≤ bound') :
    w.Within bound' := fun v member => UInt16.le_trans (within v member) le

lemma Within.push (within : w.Within bound) (le : value ≤ bound) : (w.push value).Within bound := by
  intro v member
  rw [entries_push] at member
  rcases List.mem_append.1 member with member | member
  · exact within v (List.mem_of_mem_tail member)
  · rw [List.mem_singleton.1 member]
    exact le

lemma within_filled [@NeZero Nat .ofOfNat0 n] (le : value ≤ bound) :
    (filled value : Window n).Within bound := by
  intro v member
  rw [entries_filled] at member
  rw [List.eq_of_mem_replicate member]
  exact le

lemma Within.mean_le (within : w.Within bound) (fits : n ≤ 65537) : w.mean ≤ bound := by
  have sum := sum_le_of_forall_le fun v member => UInt16.le_iff_toNat_le.1 (within v member)
  rw [length_entries] at sum
  rw [UInt16.le_iff_toNat_le, toNat_mean fits]
  exact Nat.div_le_of_le_mul sum

/-- A value that no entry exceeds does not lower the mean. -/
lemma Within.mean_le_push (within : w.Within value) (some_slots : 0 < n) (fits : n ≤ 65537) :
    w.mean ≤ (w.push value).mean := by
  obtain ⟨oldest, rest, split⟩ : ∃ oldest rest, w.entries = oldest :: rest := by
    apply List.exists_cons_of_ne_nil
    intro none
    have length := w.length_entries
    rw [none, List.length_nil] at length
    omega
  have below : oldest.toNat ≤ value.toNat :=
    UInt16.le_iff_toNat_le.1 (within oldest (by rw [split]; exact List.mem_cons_self))
  rw [UInt16.le_iff_toNat_le, toNat_mean fits, toNat_mean fits, entries_push, split]
  apply Nat.div_le_div_right
  simp only [List.tail_cons, List.map_cons, List.map_append, List.map_nil, List.sum_cons,
    List.sum_append, List.sum_nil]
  omega

end

end SpeedController.Receiver.Window
