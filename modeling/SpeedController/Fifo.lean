/-!
# Bounded queues

A first-in-first-out queue with a fixed number of places. It is the list of its entries, oldest
first, together with the fact that they fit; each operation is described by what it does to that
list.
-/

namespace SpeedController

/-- A queue of at most `capacity` entries, oldest first. -/
structure Fifo (α : Type) (capacity : Nat) where
  entries : List α
  length_le : entries.length ≤ capacity
  deriving DecidableEq

namespace Fifo

variable {α : Type} {capacity : Nat}

/-- The queue without entries. -/
def empty : Fifo α capacity := ⟨[], Nat.zero_le _⟩

/-- The number of entries that wait. -/
def length (q : Fifo α capacity) : Nat := q.entries.length

/-- Append all of `xs`, or nothing if not all of them fit. -/
def append? (q : Fifo α capacity) (xs : List α) : Option (Fifo α capacity) :=
  if fits : (q.entries ++ xs).length ≤ capacity then some ⟨q.entries ++ xs, fits⟩ else none

/-- Append one entry, if there is a free place. -/
def push? (q : Fifo α capacity) (x : α) : Option (Fifo α capacity) := q.append? [x]

/-- Append entries from the front of `xs` until the queue is full; the others are lost. -/
def offer (q : Fifo α capacity) (xs : List α) : Fifo α capacity where
  entries := q.entries ++ xs.take (capacity - q.entries.length)
  length_le := by
    have := q.length_le
    simp only [List.length_append, List.length_take]
    omega

/-- Take the oldest entry. -/
def pop? (q : Fifo α capacity) : Option (α × Fifo α capacity) :=
  match q with
  | ⟨[], _⟩ => none
  | ⟨x :: xs, fits⟩ => some (x, ⟨xs, Nat.le_of_succ_le fits⟩)

@[simp] theorem entries_empty : (empty : Fifo α capacity).entries = [] := rfl

/-- A queue is its entries. -/
theorem eq_of_entries {q r : Fifo α capacity} (h : q.entries = r.entries) : q = r := by
  cases q
  cases r
  cases h
  rfl

/-- An append that succeeds adds exactly the new entries. -/
theorem entries_of_append? {q r : Fifo α capacity} {xs : List α} (h : q.append? xs = some r) :
    r.entries = q.entries ++ xs := by
  unfold append? at h
  split at h
  · cases h; rfl
  · cases h

/-- An append is refused exactly when the entries do not fit. -/
theorem append?_eq_none_iff {q : Fifo α capacity} {xs : List α} :
    q.append? xs = none ↔ capacity < q.length + xs.length := by
  unfold append? length
  split <;> rename_i fits <;> rw [List.length_append] at fits
  · simpa using fits
  · simpa using fits

/-- A queue with a free place takes an entry. -/
theorem exists_push? {q : Fifo α capacity} (x : α) (room : q.length < capacity) :
    ∃ r, q.push? x = some r ∧ r.entries = q.entries ++ [x] := by
  cases taken : q.push? x with
  | none =>
    have full := append?_eq_none_iff.1 taken
    simp only [List.length_singleton] at full
    omega
  | some r => exact ⟨r, rfl, entries_of_append? taken⟩

/-- A queue that takes entries if they fit. -/
theorem entries_append?_getD (q : Fifo α capacity) (xs : List α) :
    ((q.append? xs).getD q).entries =
      q.entries ++ if q.length + xs.length ≤ capacity then xs else [] := by
  cases taken : q.append? xs with
  | none =>
    have full := append?_eq_none_iff.1 taken
    rw [if_neg (by omega), List.append_nil]
    rfl
  | some r =>
    have fits : ¬capacity < q.length + xs.length := by
      intro full
      rw [append?_eq_none_iff.2 full] at taken
      cases taken
    rw [if_pos (by omega)]
    exact entries_of_append? taken

/-- A queue that has room for entries takes them. -/
theorem entries_append?_getD_of_le {q : Fifo α capacity} {xs : List α}
    (fits : q.length + xs.length ≤ capacity) : ((q.append? xs).getD q).entries = q.entries ++ xs := by
  rw [entries_append?_getD, if_pos fits]

/-- To be offered nothing changes nothing. -/
@[simp] theorem offer_nil (q : Fifo α capacity) : q.offer [] = q := by
  simp [offer]

/-- Entries can be offered one after the other or at once. -/
theorem offer_append (q : Fifo α capacity) (xs ys : List α) :
    q.offer (xs ++ ys) = (q.offer xs).offer ys := by
  simp only [offer, mk.injEq, List.append_assoc, List.append_cancel_left_eq, List.take_append,
    List.length_append, List.length_take]
  congr 1
  omega

/-- Taking an entry leaves the others in order. -/
theorem entries_of_pop? {q r : Fifo α capacity} {x : α} (h : q.pop? = some (x, r)) :
    q.entries = x :: r.entries := by
  match q, h with
  | ⟨_ :: _, _⟩, h => cases h; rfl

/-- Only the empty queue has nothing to take. -/
theorem pop?_eq_none_iff {q : Fifo α capacity} : q.pop? = none ↔ q.entries = [] := by
  match q with
  | ⟨[], _⟩ => simp [pop?]
  | ⟨_ :: _, _⟩ => simp [pop?]

end Fifo

end SpeedController
