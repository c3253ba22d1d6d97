import SpeedController.Link.Transport

/-!
# Serial line

The transport of the board. Events come in one after the other, and every look at the line takes one
of them off: a byte is received, while a reception fault or a gap yields nothing. To tell whether a
byte waits the line has to be looked at, so a byte found that way is kept for the next read.
-/

namespace SpeedController.Board

open Link

/-- The speed of the line in bits per second. -/
def baudRate : Nat := 115200

/-- What a look at the line can find. -/
inductive LineEvent where
  | byte (b : UInt8)
  | fault
  | gap
  deriving DecidableEq, Repr

/-- The events still on the line, the byte that is kept, and the bytes that were sent. -/
structure SerialLine where
  events : List LineEvent
  kept : Option UInt8
  sent : List UInt8
  deriving DecidableEq, Repr

namespace SerialLine

/-- A quiet line. -/
def quiet : SerialLine := ⟨[], none, []⟩

/-- Add events behind those on the line. -/
def arrive (l : SerialLine) (events : List LineEvent) : SerialLine :=
  { l with events := l.events ++ events }

/-- Look at the line once. -/
def look (l : SerialLine) : Option UInt8 × SerialLine :=
  match l.events with
  | [] => (none, l)
  | .byte b :: events => (some b, { l with events })
  | .fault :: events => (none, { l with events })
  | .gap :: events => (none, { l with events })

/-- Whether a byte waits. If none is kept, the line is looked at. -/
def hasData (l : SerialLine) : Bool × SerialLine :=
  match l.kept with
  | some _ => (true, l)
  | none =>
    let (found, l) := l.look
    (found.isSome, { l with kept := found })

/-- Take the kept byte, or else look at the line. -/
def read (l : SerialLine) : Option UInt8 × SerialLine :=
  match l.kept with
  | some b => (some b, { l with kept := none })
  | none => l.look

/-- Send bytes. -/
def write (l : SerialLine) (bytes : List UInt8) : SerialLine := { l with sent := l.sent ++ bytes }

/-- Collect what was sent. -/
def takeSent (l : SerialLine) : List UInt8 × SerialLine := (l.sent, { l with sent := [] })

/-- The number of events on the line and of kept bytes. -/
def backlog (l : SerialLine) : Nat := l.events.length + l.kept.toList.length

/-- A look that finds a byte takes an event off the line. -/
theorem events_of_look {l l' : SerialLine} {b : UInt8} (h : l.look = (some b, l')) :
    l.events = .byte b :: l'.events ∧ l'.kept = l.kept := by
  unfold look at h
  split at h <;> cases h
  rename_i onLine
  exact ⟨onLine, rfl⟩

instance : Transport SerialLine where
  hasData := hasData
  read := read
  write l bytes := (true, l.write bytes)
  backlog := backlog
  backlog_lt {l l' b} h := by
    unfold read at h
    split at h
    · rename_i kept
      cases h
      simp [backlog, kept]
    · rename_i kept
      obtain ⟨onLine, same⟩ := events_of_look h
      simp [backlog, onLine, same]

end SerialLine

end SpeedController.Board
