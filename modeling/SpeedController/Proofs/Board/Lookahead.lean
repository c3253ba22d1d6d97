import Mathlib.Tactic.Lemma
import SpeedController.Board.SerialLine

/-!
# Looking ahead

However asking and reading are mixed, events come in behind those on a line, others are taken off its
front, and reads return bytes. A `Passage` says how these go together: what was kept and what was
found has been returned or is still kept, in this order. Passages can be chained (`Passage.trans`),
and everything that happens to a line is one (`exists_passage`). While nothing is read a kept byte
stays where it is, and the line is not looked at (`useAll_of_kept`). The main statement is
`lookahead_lossless`.
-/

namespace SpeedController.Board

/-- The byte that a look at an event yields. -/
def LineEvent.byte? : LineEvent → Option UInt8
  | .byte b => some b
  | .fault => none
  | .gap => none

namespace SerialLine

/-- Something that happens to a line: events arrive, the device asks whether a byte waits, it reads
one, or it sends some. -/
inductive Use where
  | arrive (events : List LineEvent)
  | ask
  | read
  | send (bytes : List UInt8)
  deriving DecidableEq, Repr

/-- The events that arrive. -/
def arrivals (us : List Use) : List LineEvent :=
  us.flatMap fun
    | .arrive events => events
    | _ => []

/-- Let something happen to a line. Only reading returns a byte. -/
def use (l : SerialLine) : Use → Option UInt8 × SerialLine
  | .arrive events => (none, l.arrive events)
  | .ask => (none, l.hasData.2)
  | .read => l.read
  | .send bytes => (none, l.write bytes)

/-- Let things happen in turn. -/
def useAll (l : SerialLine) (us : List Use) : SerialLine := us.foldl (fun l u => (l.use u).2) l

/-- The bytes that reads return, in order. -/
def returned (l : SerialLine) : List Use → List UInt8
  | [] => []
  | u :: us => (l.use u).1.toList ++ (l.use u).2.returned us

@[simp] lemma useAll_cons (l : SerialLine) (u : Use) (us : List Use) :
    l.useAll (u :: us) = (l.use u).2.useAll us := rfl

lemma arrivals_cons (u : Use) (us : List Use) : arrivals (u :: us) = arrivals [u] ++ arrivals us := by
  simp only [arrivals, List.flatMap_cons, List.flatMap_nil, List.append_nil]

/-- Events arrive at the end of a line and are taken off its front, and the bytes among those taken
are returned, behind the byte kept before and in front of the byte kept afterwards. -/
structure Passage (l l' : SerialLine) (arrived looked : List LineEvent) (bytes : List UInt8) :
    Prop where
  events : l.events ++ arrived = looked ++ l'.events
  bytes : l.kept.toList ++ looked.filterMap LineEvent.byte? = bytes ++ l'.kept.toList

variable {l l' l'' : SerialLine} {b : UInt8} {us : List Use}

lemma Passage.refl (l : SerialLine) : Passage l l [] [] [] :=
  ⟨List.append_nil _, List.append_nil _⟩

lemma Passage.trans {arrived arrived' looked looked' : List LineEvent} {bytes bytes' : List UInt8}
    (h : Passage l l' arrived looked bytes) (h' : Passage l' l'' arrived' looked' bytes') :
    Passage l l'' (arrived ++ arrived') (looked ++ looked') (bytes ++ bytes') where
  events := by
    calc l.events ++ (arrived ++ arrived')
      _ = looked ++ (l'.events ++ arrived') := by
        rw [← List.append_assoc, h.events, List.append_assoc]
      _ = looked ++ looked' ++ l''.events := by rw [h'.events, List.append_assoc]
  bytes := by
    calc l.kept.toList ++ (looked ++ looked').filterMap LineEvent.byte?
      _ = bytes ++ (l'.kept.toList ++ looked'.filterMap LineEvent.byte?) := by
        rw [List.filterMap_append, ← List.append_assoc, h.bytes, List.append_assoc]
      _ = bytes ++ bytes' ++ l''.kept.toList := by rw [h'.bytes, List.append_assoc]

/-- A look takes at most one event off the line, and finds the byte in it. -/
lemma exists_look (l : SerialLine) :
    ∃ looked, l.events = looked ++ l.look.2.events ∧
      looked.filterMap LineEvent.byte? = l.look.1.toList ∧ l.look.2.kept = l.kept := by
  unfold look
  split
  · exact ⟨[], rfl, rfl, rfl⟩
  · rename_i b _ onLine
    exact ⟨[.byte b], onLine, rfl, rfl⟩
  · rename_i onLine
    exact ⟨[.fault], onLine, rfl, rfl⟩
  · rename_i onLine
    exact ⟨[.gap], onLine, rfl, rfl⟩

lemma hasData_of_kept (kept : l.kept = some b) : l.hasData = (true, l) := by
  rw [hasData, kept]

lemma hasData_of_none (kept : l.kept = none) :
    l.hasData = (l.look.1.isSome, { l.look.2 with kept := l.look.1 }) := by
  rw [hasData, kept]

lemma read_of_kept (kept : l.kept = some b) : l.read = (some b, { l with kept := none }) := by
  rw [read, kept]

lemma read_of_none (kept : l.kept = none) : l.read = l.look := by
  rw [read, kept]

/-- The answer is whether a byte is kept from then on. -/
lemma hasData_fst (l : SerialLine) : l.hasData.1 = l.hasData.2.kept.isSome := by
  cases kept : l.kept with
  | none => rw [hasData_of_none kept]
  | some b => rw [hasData_of_kept kept, kept]; rfl

lemma passage_use (l : SerialLine) (u : Use) :
    ∃ looked, Passage l (l.use u).2 (arrivals [u]) looked (l.use u).1.toList := by
  cases u with
  | arrive events =>
    refine ⟨[], ?_, List.append_nil _⟩
    rw [arrivals, List.flatMap_singleton]
    rfl
  | send bytes => exact ⟨[], List.append_nil _, List.append_nil _⟩
  | ask =>
    show ∃ looked, Passage l l.hasData.2 [] looked []
    cases kept : l.kept with
    | some b =>
      rw [hasData_of_kept kept]
      exact ⟨[], Passage.refl l⟩
    | none =>
      obtain ⟨looked, events, found, -⟩ := l.exists_look
      rw [hasData_of_none kept]
      exact ⟨looked, by rwa [List.append_nil], by rw [kept, found]; rfl⟩
  | read =>
    show ∃ looked, Passage l l.read.2 [] looked l.read.1.toList
    cases kept : l.kept with
    | some b =>
      rw [read_of_kept kept]
      exact ⟨[], List.append_nil _, by rw [kept]; rfl⟩
    | none =>
      obtain ⟨looked, events, found, same⟩ := l.exists_look
      rw [read_of_none kept]
      refine ⟨looked, by rwa [List.append_nil], ?_⟩
      rw [found, same, kept]
      exact (List.append_nil _).symm

lemma exists_passage (l : SerialLine) (us : List Use) :
    ∃ looked, Passage l (l.useAll us) (arrivals us) looked (l.returned us) := by
  induction us generalizing l with
  | nil => exact ⟨[], Passage.refl l⟩
  | cons u us ih =>
    obtain ⟨looked, first⟩ := l.passage_use u
    obtain ⟨looked', rest⟩ := ih (l.use u).2
    rw [arrivals_cons]
    exact ⟨looked ++ looked', first.trans rest⟩

/-- Without a read no byte is returned. -/
lemma returned_of_unread (unread : .read ∉ us) : l.returned us = [] := by
  induction us generalizing l with
  | nil => rfl
  | cons u us ih =>
    rw [returned, ih fun member => unread (List.mem_cons_of_mem _ member)]
    cases u with
    | read => exact absurd List.mem_cons_self unread
    | arrive | ask | send => rfl

/-- Without a read a kept byte stays, and no event is taken off the line. -/
lemma useAll_of_kept (kept : l.kept = some b) (unread : .read ∉ us) :
    (l.useAll us).kept = some b ∧ (l.useAll us).events = l.events ++ arrivals us := by
  induction us generalizing l with
  | nil => exact ⟨kept, (List.append_nil _).symm⟩
  | cons u us ih =>
    have step : (l.use u).2.kept = some b ∧ (l.use u).2.events = l.events ++ arrivals [u] := by
      cases u with
      | read => exact absurd List.mem_cons_self unread
      | ask =>
        rw [use, hasData_of_kept kept]
        exact ⟨kept, (List.append_nil _).symm⟩
      | send => exact ⟨kept, (List.append_nil _).symm⟩
      | arrive events => exact ⟨kept, by rw [arrivals, List.flatMap_singleton]; rfl⟩
    obtain ⟨stays, events⟩ := ih step.1 fun member => unread (List.mem_cons_of_mem _ member)
    rw [useAll_cons, arrivals_cons, ← List.append_assoc, ← step.2]
    exact ⟨stays, events⟩

/-- Whatever happens to a line, the bytes that reads have returned and then the byte that is kept are
the byte kept at first and then those taken off the line, in order. If the device asks and a byte
waits, that byte is kept: until the next read the line is not looked at any more, whatever arrives
on it and however often the device asks again, and that read returns the byte without a look. Between
two reads at most one byte is taken off the line. -/
theorem lookahead_lossless (l : SerialLine) (us : List Use) :
    (∃ looked, l.events ++ arrivals us = looked ++ (l.useAll us).events ∧
      l.kept.toList ++ looked.filterMap LineEvent.byte? =
        l.returned us ++ (l.useAll us).kept.toList ∧
      (.read ∉ us → (looked.filterMap LineEvent.byte?).length ≤ 1)) ∧
    (l.hasData.1 = true → .read ∉ us →
      let asked := l.hasData.2
      let later := asked.useAll us
      ∃ b, asked.kept = some b ∧ later.events = asked.events ++ arrivals us ∧
        later.read = (some b, { later with kept := none })) := by
  constructor
  · obtain ⟨looked, passage⟩ := l.exists_passage us
    refine ⟨looked, passage.events, passage.bytes, fun unread => ?_⟩
    have bytes := congrArg List.length passage.bytes
    rw [returned_of_unread unread, List.nil_append, List.length_append] at bytes
    have single : (l.useAll us).kept.toList.length ≤ 1 := by
      cases (l.useAll us).kept <;> simp
    omega
  · intro waits unread asked later
    rw [hasData_fst] at waits
    obtain ⟨b, kept⟩ := Option.isSome_iff_exists.1 waits
    obtain ⟨stays, events⟩ := useAll_of_kept kept unread
    exact ⟨b, kept, events, read_of_kept stays⟩

/-- Reception faults and gaps stand between the bytes. The device asks three times for the first byte,
and for the second one it asks before more arrives, sends something, and asks again before it reads. -/
theorem lookahead_lossless_faults :
    let l : SerialLine := ⟨[.fault, .byte 1, .gap, .byte 0, .byte 2], none, []⟩
    let us : List Use := [.ask, .ask, .ask, .read, .read]
    let idle : List Use := [.arrive [.byte 3], .ask, .send [7], .ask]
    let asked := (l.useAll us).hasData.2
    (∃ looked, looked ++ (l.useAll us).events = l.events ∧
      looked.filterMap LineEvent.byte? = [1]) ∧
    (l.useAll us).hasData.1 = true ∧ .read ∉ idle ∧
    (asked.useAll idle).events = [.byte 2, .byte 3] ∧ (asked.useAll idle).read.1 = some 0 := by
  intro l us idle asked
  obtain ⟨⟨looked, events, bytes, -⟩, -⟩ := lookahead_lossless l us
  obtain ⟨-, ahead⟩ := lookahead_lossless (l.useAll us) idle
  obtain ⟨b, kept, later, read⟩ := ahead (by decide) (by decide)
  have first : b = 0 := Option.some_inj.1 (kept.symm.trans (by decide))
  refine ⟨⟨looked, ?_, ?_⟩, by decide, by decide, ?_, ?_⟩
  · exact events.symm.trans (List.append_nil _)
  · exact bytes.trans (by decide)
  · exact later.trans (by decide)
  · rw [read, first]

end SerialLine

end SpeedController.Board
