import SpeedController.Proofs.Link.Acceptance
import SpeedController.Proofs.Link.Console
import SpeedController.Proofs.Link.Pipeline

/-!
# Interrupted requests

The age of an incomplete request is only looked at when a poll has run out of bytes. `Console.log`
writes down what the polls of a run do, and `Spans` finds in it the bytes of a request: polls may run
out of bytes between two of them, but none of these polls came late. A session is always in the
middle of such bytes or between requests (`Session.Follows`), which every event carries on
(`Follows.handle`). The main statement is `requests_uninterrupted`.
-/

namespace SpeedController.Link

open Settings (Store RamStore)

/-- What a session does in time: it takes a byte, it runs out of bytes, or it is begun again. -/
inductive Mark where
  | byte (value : UInt8) (now : UInt32)
  | dry (now : UInt32)
  | begun (now : UInt32)
  deriving DecidableEq, Repr

/-- A log ends with the taking of these bytes, the last one at time `last`. Whenever the session ran
out of bytes since the first one, less than the timeout had passed since the byte before. -/
inductive Spans : List Mark → List UInt8 → UInt32 → Prop where
  | first {ms byte now} :
    Spans (ms ++ [.byte byte now]) [byte] now
  | more {ms bytes last byte now} :
    Spans ms bytes last → Spans (ms ++ [.byte byte now]) (bytes ++ [byte]) now
  | dry {ms bytes last now} :
    Spans ms bytes last → now - last < requestTimeout → Spans (ms ++ [.dry now]) bytes last

/-- What a byte does to a decoder, by what the decoder has seen of a request. -/
inductive Decoder.Takes (d : Decoder) (byte : UInt8) :
    Option (List UInt8) → Option Request → Decoder → Prop where
  | skip :
    byte ≠ readKind → byte ≠ writeKind →
    Takes d byte none none d
  | read :
    byte = readKind →
    Takes d byte none (some .read) d
  | begin {d'} :
    byte = writeKind → d'.Holds (some []) →
    Takes d byte none none d'
  | collect {payload d'} :
    d'.Holds (some (payload ++ [byte])) →
    Takes d byte (some payload) none d'
  | complete {payload w d'} :
    WriteRequest.ofPayload? d.version (payload ++ [byte]) = some w → d'.Holds none →
    Takes d byte (some payload) (some (.write w)) d'

/-- A byte does one of these things. -/
lemma Decoder.push_takes {d : Decoder} {seen : Option (List UInt8)} (holds : d.Holds seen)
    (byte : UInt8) : d.Takes byte seen (d.push byte).1 (d.push byte).2 := by
  cases seen with
  | none =>
    by_cases read : byte = readKind
    · rw [read, push_read holds]
      exact .read rfl
    by_cases write : byte = writeKind
    · obtain ⟨d', begun, -, holds'⟩ := push_begin holds
      rw [write, begun]
      exact .begin rfl holds'
    · rw [push_skip holds read write]
      exact .skip read write
  | some payload =>
    by_cases short : payload.length + 1 < d.version.payloadLength
    · obtain ⟨d', collected, -, holds'⟩ := push_collect holds byte short
      rw [collected]
      exact .collect holds'
    · have full : payload.length + 1 = d.version.payloadLength := by
        cases holds
        omega
      obtain ⟨d', completed, -, holds'⟩ := push_complete holds byte full
      have length : (payload ++ [byte]).length = d.version.payloadLength := by
        rw [List.length_append, List.length_singleton, full]
      obtain ⟨w, spelled⟩ := WriteRequest.exists_ofPayload? length
      rw [completed, spelled]
      exact .complete spelled holds'

namespace Session

variable {s : Session} {ms : List Mark} {d : Decoder} {byte : UInt8} {bytes : List UInt8}
  {now : UInt32}

/-- What a log tells about a session: it is between requests, or the log ends with the bytes of a
WRITE that it has seen. -/
inductive Follows (s : Session) (ms : List Mark) : Prop where
  | idle :
    s.decoder.Holds none →
    Follows s ms
  | collecting {payload} :
    s.decoder.Holds (some payload) → Spans ms (writeKind :: payload) s.lastByte →
    Follows s ms

/-- A byte that completes nothing is skipped, or it begins or extends a WRITE. -/
lemma Follows.push (follows : s.Follows ms) (now : UInt32)
    (pushed : s.decoder.push byte = (none, d)) : Follows ⟨d, now⟩ (ms ++ [.byte byte now]) := by
  cases follows with
  | idle holds =>
    have takes := Decoder.push_takes holds byte
    rw [pushed] at takes
    cases takes with
    | skip => exact .idle holds
    | begin write holds' =>
      subst write
      exact .collecting holds' .first
  | collecting holds spans =>
    have takes := Decoder.push_takes holds byte
    rw [pushed] at takes
    cases takes with
    | collect holds' => exact .collecting holds' spans.more

/-- Bytes that complete nothing are all taken now. -/
lemma Follows.feed {p : Nat} (follows : s.Follows ms) (now : UInt32)
    (fed : s.decoder.feed p bytes = ([], d)) :
    Follows ⟨d, if bytes = [] then s.lastByte else now⟩ (ms ++ bytes.map (.byte · now)) := by
  induction bytes generalizing s ms p with
  | nil =>
    obtain ⟨-, rfl⟩ := Prod.mk.inj fed
    rw [if_pos rfl, List.map_nil, List.append_nil]
    exact follows
  | cons byte bytes ih =>
    rcases pushed : s.decoder.push byte with ⟨_ | request, d'⟩
    · rw [Decoder.feed, pushed] at fed
      have later := ih (follows.push now pushed) fed
      rw [ite_self] at later
      rw [if_neg (List.cons_ne_nil _ _), List.map_cons, ← List.singleton_append, ← List.append_assoc]
      exact later
    · rw [Decoder.feed, pushed] at fed
      cases fed

/-- The last byte of a request leaves the session between requests, and it is the last one of the
payload of a WRITE. -/
lemma Follows.complete {request : Request} (follows : s.Follows ms) (now : UInt32)
    (pushed : s.decoder.push byte = (some request, d)) :
    d.Holds none ∧ (request = .read ∨ ∃ payload w, request = .write w ∧
      WriteRequest.ofPayload? s.decoder.version payload = some w ∧
      Spans (ms ++ [.byte byte now]) (writeKind :: payload) now) := by
  cases follows with
  | idle holds =>
    have takes := Decoder.push_takes holds byte
    rw [pushed] at takes
    cases takes with
    | read => exact ⟨holds, .inl rfl⟩
  | collecting holds spans =>
    have takes := Decoder.push_takes holds byte
    rw [pushed] at takes
    cases takes with
    | complete spelled holds' => exact ⟨holds', .inr ⟨_, _, rfl, spelled, spans.more⟩⟩

/-- When the bytes have run out, a WRITE that is too old is given up. -/
lemma Follows.expire (follows : s.Follows ms) (now : UInt32) :
    (s.expire now).Follows (ms ++ [.dry now]) := by
  unfold Session.expire
  split
  · exact .idle (.idle rfl)
  · rename_i young
    cases follows with
    | idle holds => exact .idle holds
    | collecting holds spans =>
      have young : ¬requestTimeout ≤ now - s.lastByte := fun old => young ⟨holds.inProgress, old⟩
      exact .collecting holds (spans.dry (UInt32.not_le.1 young))

end Session

namespace Console

/-- What the session does in a poll that ends in `c'`: it takes the bytes that do not wait any more,
and it runs out of them unless it answers a request. -/
def pollMarks (c c' : Console) (answer : Option Transaction) (now : UInt32) : List Mark :=
  (c.waiting.take (c.waiting.length - c'.waiting.length)).map (.byte · now) ++
    if answer.isNone then [.dry now] else []

/-- What the session does on an event. -/
def marks (c : Console) : Event → List Mark
  | .poll now => c.pollMarks (c.poll now).2 (c.poll now).1 now
  | .restart now => [.begun now]
  | _ => []

/-- What the session does in a run. -/
def log (c : Console) : List Event → List Mark
  | [] => []
  | e :: es => c.marks e ++ (c.handle e).log es

lemma log_append (c : Console) (es fs : List Event) :
    c.log (es ++ fs) = c.log es ++ (c.run es).log fs := by
  induction es generalizing c with
  | nil => rfl
  | cons e es ih =>
    rw [List.cons_append, log, log, ih, List.append_assoc]
    rfl

section
variable {c c' : Console} {ms : List Mark}

lemma pollMarks_none (dry : c'.waiting = []) (now : UInt32) :
    c.pollMarks c' none now = c.waiting.map (.byte · now) ++ [.dry now] := by
  rw [pollMarks, dry, List.length_nil, Nat.sub_zero, List.take_length]
  rfl

lemma pollMarks_some {used : List UInt8} (split : c.waiting = used ++ c'.waiting) (t : Transaction)
    (now : UInt32) : c.pollMarks c' (some t) now = used.map (.byte · now) := by
  rw [pollMarks, split, List.length_append, Nat.add_sub_cancel, List.take_left]
  exact List.append_nil _

/-- A poll carries the log on, and the bytes of a WRITE that it completes are at the end of it. -/
lemma follows_poll (follows : c.session.Follows ms) (now : UInt32) :
    (c.poll now).2.session.Follows (ms ++ c.marks (.poll now)) ∧
      ∀ t, (c.poll now).1 = some t → t ≠ .read → ∃ payload w,
        WriteRequest.ofPayload? c.session.decoder.version payload = some w ∧
        (c.poll now).2.endpoint.memory =
          c.endpoint.memory.after ⟨.write w, c.endpoint.store.failWrites⟩ ∧
        Spans (ms ++ c.marks (.poll now)) (writeKind :: payload) now := by
  have polled := c.polled now
  rw [marks]
  generalize c.poll now = r at polled ⊢
  obtain ⟨t, s', e'⟩ := r
  cases polled with
  | @dry decoder fed =>
    rw [pollMarks_none rfl, ← List.append_assoc]
    exact ⟨(follows.feed now (fed 0)).expire now, nofun⟩
  | @answer used incoming request decoder split completes =>
    obtain ⟨first, last, d, rfl, fed, pushed⟩ := completes.snoc
    have split : c.waiting = (first ++ [last]) ++ Console.waiting ⟨⟨decoder, now⟩,
        ({ c.endpoint with transport.incoming := incoming }.serve request).2⟩ := by
      rw [Endpoint.serve_ram]
      exact split
    rw [pollMarks_some split, Endpoint.serve_ram, List.map_append, ← List.append_assoc]
    obtain ⟨holds, kind⟩ := (follows.feed now (fed 0)).complete now pushed
    refine ⟨.idle holds, fun t answered other => ?_⟩
    rcases kind with rfl | ⟨payload, w, rfl, spelled, spans⟩
    · cases answered
      exact absurd rfl other
    · have version := c.session.decoder.feed_version 0 first
      rw [fed] at version
      exact ⟨payload, w, version ▸ spelled, rfl, spans⟩

/-- An event carries the log on. -/
lemma follows_handle (follows : c.session.Follows ms) (e : Event) :
    (c.handle e).session.Follows (ms ++ c.marks e) := by
  cases e with
  | poll now => exact (follows_poll follows now).1
  | restart now => exact .idle (.idle rfl)
  | receive | collect | failWrites =>
    show c.session.Follows (ms ++ [])
    rw [List.append_nil]
    exact follows

/-- A run carries the log on. -/
lemma follows_run (follows : c.session.Follows ms) (es : List Event) :
    (c.run es).session.Follows (ms ++ c.log es) := by
  induction es generalizing c ms with
  | nil =>
    rw [log, List.append_nil]
    exact follows
  | cons e es ih =>
    rw [log, ← List.append_assoc]
    exact ih (follows_handle follows e)

lemma version_run (c : Console) (es : List Event) :
    (c.run es).session.decoder.version = c.session.decoder.version := by
  induction es generalizing c with
  | nil => rfl
  | cons e es ih =>
    refine (ih (c.handle e)).trans ?_
    cases e with
    | poll now => exact (c.polled now).version
    | restart | receive | collect | failWrites => rfl

/-- A poll that finds no bytes gives up a WRITE that is too old, and leaves a younger one alone. -/
lemma session_poll_of_dry (dry : c.waiting = []) (now : UInt32) :
    (c.poll now).2.session = c.session.expire now := by
  rw [poll, Session.poll_of_dry (Loopback.read_of_nil dry)]

/-- A poll that finds no bytes drops a WRITE that is too old, and then bytes are read as between
requests. -/
lemma poll_of_old {now : UInt32} (unfinished : c.session.inProgress = true) (dry : c.waiting = [])
    (old : requestTimeout ≤ now - c.session.lastByte) :
    (c.poll now).2.session.inProgress = false ∧
      ∀ p bytes, ((c.poll now).2.session.decoder.feed p bytes).1 =
        (Reading.ofBytes c.session.decoder.version p bytes).requests := by
  have dropped :
      (c.poll now).2.session = { c.session with decoder := c.session.decoder.abort } :=
    (session_poll_of_dry dry now).trans (if_pos ⟨unfinished, old⟩)
  rw [dropped]
  refine ⟨rfl, fun p bytes => ?_⟩
  have idle : c.session.decoder.abort.Holds none := .idle rfl
  obtain ⟨d, fed, -⟩ := Decoder.feed_eq_reading idle p bytes
  rw [fed]
  rfl

/-- A poll that finds the rest of a payload completes the WRITE, whenever it comes. -/
lemma poll_of_rest {payload rest more : List UInt8} {w : WriteRequest}
    (holds : c.session.decoder.Holds (some payload))
    (spelled : WriteRequest.ofPayload? c.session.decoder.version (payload ++ rest) = some w)
    (waiting : c.waiting = rest ++ more) (now : UInt32) :
    (c.poll now).1 = some (Demand.transaction ⟨.write w, c.endpoint.store.failWrites⟩) ∧
      (c.poll now).2.endpoint.memory =
        c.endpoint.memory.after ⟨.write w, c.endpoint.store.failWrites⟩ := by
  have full := WriteRequest.length_of_ofPayload? spelled
  rw [List.length_append] at full
  obtain ⟨d, fed, -, holds'⟩ := Decoder.feed_complete holds 0 rest full
  have some_bytes : rest ≠ [] := by
    rintro rfl
    cases holds with
    | collecting _ short =>
      rw [List.length_nil] at full
      omega
  rw [spelled, Nat.zero_add] at fed
  have completes := Decoder.Completes.of_feed some_bytes fed
  have polled := c.polled now
  generalize c.poll now = r at polled ⊢
  obtain ⟨t, s', e'⟩ := r
  cases polled with
  | dry fed' =>
    have fed' : c.session.decoder.feed 0 c.waiting = ([], _) := fed' 0
    rw [waiting] at fed'
    exact absurd fed' (completes.not_dry 0)
  | answer split completes' =>
    obtain ⟨-, rfl, -⟩ := completes.unique completes' (waiting.symm.trans split)
    rw [Endpoint.serve_ram]
    exact ⟨rfl, rfl⟩

end

/-- In every run from power-up, if a poll completes a WRITE, then no poll since the kind byte has run
out of bytes so late that the timeout had passed since the byte before. A WRITE that is incomplete
has been taken like that so far. A poll that finds no bytes drops it if the timeout has passed since
its last byte, and then bytes are read as between requests; otherwise the poll leaves it alone. But
a poll that finds the rest of the payload completes the WRITE, whatever time has passed. -/
theorem requests_uninterrupted (version : Version) (store : RamStore) (es : List Event)
    (now : UInt32) :
    let boot := boot version store
    let c := boot.run es
    let c' := (c.poll now).2
    (∀ t, (c.poll now).1 = some t → t ≠ .read → ∃ payload w,
      WriteRequest.ofPayload? version payload = some w ∧
      c'.endpoint.memory = c.endpoint.memory.after ⟨.write w, c.endpoint.store.failWrites⟩ ∧
      Spans (boot.log (es ++ [.poll now])) (writeKind :: payload) now) ∧
    (c.session.inProgress = true → ∃ payload,
      Spans (boot.log es) (writeKind :: payload) c.session.lastByte ∧
      (c.waiting = [] → now - c.session.lastByte < requestTimeout → c'.session = c.session) ∧
      (c.waiting = [] → requestTimeout ≤ now - c.session.lastByte → c'.session.inProgress = false ∧
        ∀ p bytes, (c'.session.decoder.feed p bytes).1 = (Reading.ofBytes version p bytes).requests) ∧
      ∀ rest more w, WriteRequest.ofPayload? version (payload ++ rest) = some w →
        c.waiting = rest ++ more →
        (c.poll now).1 = some (Demand.transaction ⟨.write w, c.endpoint.store.failWrites⟩) ∧
        c'.endpoint.memory = c.endpoint.memory.after ⟨.write w, c.endpoint.store.failWrites⟩) := by
  intro boot c c'
  have speaks : c.session.decoder.version = version := boot.version_run es
  have follows : c.session.Follows (boot.log es) := by
    have start : boot.session.Follows [] := .idle (.idle rfl)
    exact follows_run start es
  constructor
  · intro t answered other
    obtain ⟨payload, w, spelled, memory, spans⟩ := (follows_poll follows now).2 t answered other
    rw [speaks] at spelled
    refine ⟨payload, w, spelled, memory, ?_⟩
    rw [log_append, log, log, List.append_nil]
    exact spans
  · intro unfinished
    cases follows with
    | idle holds =>
      rw [Session.inProgress, holds.inProgress] at unfinished
      cases unfinished
    | @collecting payload holds spans =>
      refine ⟨payload, spans, fun dry young => ?_, fun dry old => ?_, ?_⟩
      · exact (session_poll_of_dry dry now).trans (Session.expire_of_young fun _ => young)
      · rw [← speaks]
        exact poll_of_old unfinished dry old
      · intro rest more w spelled waiting
        rw [← speaks] at spelled
        exact poll_of_rest holds spelled waiting now

/-- A WRITE of which no poll runs out of bytes late is completed, and one of which a poll does is
dropped. -/
theorem requests_uninterrupted_pause :
    let boot := boot .basic (.holding Settings.erasedBlock)
    let es : List Event := [.receive [1, 0, 9], .poll 100, .poll 1099, .receive [1, 2, 3, 4]]
    let fs : List Event := [.receive [1, 0, 9], .poll 100]
    ((boot.run es).poll 2000).1 = some .written ∧
      (∃ payload w, WriteRequest.ofPayload? .basic payload = some w ∧
        Spans (boot.log (es ++ [.poll 2000])) (writeKind :: payload) 2000) ∧
      (boot.run fs).session.inProgress = true ∧
      ((boot.run fs).poll 1100).2.session.inProgress = false := by
  intro boot es fs
  have written : ((boot.run es).poll 2000).1 = some .written := by decide +kernel
  have unfinished : (boot.run fs).session.inProgress = true := by decide +kernel
  have dry : (boot.run fs).waiting = [] := by decide +kernel
  have old : requestTimeout ≤ 1100 - (boot.run fs).session.lastByte := by decide +kernel
  obtain ⟨completed, -⟩ := requests_uninterrupted .basic (.holding Settings.erasedBlock) es 2000
  obtain ⟨-, interrupted⟩ := requests_uninterrupted .basic (.holding Settings.erasedBlock) fs 1100
  obtain ⟨payload, w, spelled, -, spans⟩ := completed _ written (by simp)
  obtain ⟨_, -, -, dropped, -⟩ := interrupted unfinished
  exact ⟨written, ⟨payload, w, spelled, spans⟩, unfinished, (dropped dry old).1⟩

/-- The rest of a WRITE comes when the timeout has passed since its last byte, and no poll has come in
between. The WRITE is completed all the same. -/
theorem requests_uninterrupted_late :
    let boot := boot .basic (.holding Settings.erasedBlock)
    let es : List Event := [.receive [1, 0, 9, 1], .poll 100, .receive [2, 3, 4]]
    boot.log (es ++ [.poll 1100]) =
        [1, 0, 9, 1].map (.byte · 100) ++ [.dry 100] ++ [2, 3, 4].map (.byte · 1100) ∧
      requestTimeout ≤ 1100 - 100 ∧ ((boot.run es).poll 1100).1 = some .written := by
  decide +kernel

end Console

end SpeedController.Link
