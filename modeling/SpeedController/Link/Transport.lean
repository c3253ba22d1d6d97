import SpeedController.Fifo

/-!
# Transports

The bytes of the link travel over a transport. `Loopback` is one in memory, with a bounded buffer in
each direction.
-/

namespace SpeedController.Link

/-- A way for bytes to come and go. Looking for a byte and reading one may change the transport even
if there is none. Every byte that is read shortens the backlog. -/
class Transport (T : Type) where
  /-- Whether a byte waits. -/
  hasData : T → Bool × T
  /-- Take the next byte, if one waits. -/
  read : T → Option UInt8 × T
  /-- Send bytes, and tell whether they were sent. -/
  write : T → List UInt8 → Bool × T
  /-- A bound on the bytes that can still be read. -/
  backlog : T → Nat
  backlog_lt : ∀ {t t' : T} {b : UInt8}, read t = (some b, t') → backlog t' < backlog t

/-- The bytes that a loopback holds in each direction. -/
abbrev loopbackLength : Nat := 64

/-- A transport in memory: bytes on their way to the device and bytes that the device has sent. -/
structure Loopback where
  incoming : Fifo UInt8 loopbackLength
  outgoing : Fifo UInt8 loopbackLength
  deriving DecidableEq

namespace Loopback

/-- No bytes on their way. -/
def empty : Loopback := ⟨.empty, .empty⟩

/-- Put bytes on their way to the device. Those that do not fit are lost. -/
def inject (l : Loopback) (bytes : List UInt8) : Loopback :=
  { l with incoming := l.incoming.offer bytes }

/-- Collect what the device has sent. -/
def takeSent (l : Loopback) : List UInt8 × Loopback :=
  (l.outgoing.entries, { l with outgoing := .empty })

/-- The number of bytes on their way to the device. -/
def pending (l : Loopback) : Nat := l.incoming.length

/-- Take the next byte. -/
def read (l : Loopback) : Option UInt8 × Loopback :=
  match l.incoming.pop? with
  | none => (none, l)
  | some (b, incoming) => (some b, { l with incoming })

/-- Send all of some bytes, or none if they do not fit. -/
def write (l : Loopback) (bytes : List UInt8) : Bool × Loopback :=
  match l.outgoing.append? bytes with
  | none => (false, l)
  | some outgoing => (true, { l with outgoing })

/-- Reading a byte takes it off the front of those on their way. -/
theorem entries_of_read {l l' : Loopback} {b : UInt8} (h : l.read = (some b, l')) :
    l.incoming.entries = b :: l'.incoming.entries := by
  unfold read at h
  split at h
  · cases h
  · rename_i taken
    cases h
    exact Fifo.entries_of_pop? taken

/-- Without bytes on their way there is nothing to read. -/
theorem read_of_nil {l : Loopback} (dry : l.incoming.entries = []) : l.read = (none, l) := by
  rw [read, Fifo.pop?_eq_none_iff.2 dry]

/-- The first byte on its way is read. -/
theorem read_of_cons {l : Loopback} {byte : UInt8} {rest : List UInt8}
    (waiting : l.incoming.entries = byte :: rest) :
    ∃ incoming, l.read = (some byte, { l with incoming }) ∧ incoming.entries = rest := by
  cases taken : l.incoming.pop? with
  | none =>
    rw [Fifo.pop?_eq_none_iff.1 taken] at waiting
    cases waiting
  | some x =>
    obtain ⟨b, incoming⟩ := x
    rw [Fifo.entries_of_pop? taken] at waiting
    cases waiting
    exact ⟨incoming, by rw [read, taken], rfl⟩

/-- Sending is all or nothing, and it leaves the bytes for the device alone. -/
theorem write_snd (l : Loopback) (bytes : List UInt8) :
    (l.write bytes).2 = { l with outgoing := (l.outgoing.append? bytes).getD l.outgoing } := by
  unfold write
  cases l.outgoing.append? bytes <;> rfl

instance : Transport Loopback where
  hasData l := (!l.incoming.entries.isEmpty, l)
  read := read
  write := write
  backlog := pending
  backlog_lt h := by
    have := congrArg List.length (entries_of_read h)
    simp only [List.length_cons] at this
    simp only [pending, Fifo.length]
    omega

end Loopback

end SpeedController.Link
