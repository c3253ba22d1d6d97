import SpeedController.Proofs.Link.Console

/-!
# Delivery

How a byte string is cut into deliveries, and when it is polled, makes no difference to what a
console does with it, as long as the buffers do not overflow and no request waits too long
(`Undisturbed`). `Serves` says that a console took some bytes and did what they ask for; an event
does so (`serves_handle`), and it adds up (`Serves.trans`). A console that waits for a request then
does what the grammar finds in the bytes that it took (`delivery_independent`).
-/

namespace SpeedController.Link

open Settings (RamStore)

namespace Console

/-- The time at which the last byte was taken, after an event. -/
def lastTaken (c : Console) (last : UInt32) : Event → UInt32
  | .poll now => if c.waiting = [] then last else now
  | _ => last

/-- Bytes come that fit, answers are collected, or the session is polled: its answer fits, and if it
finds no bytes within a request the last one is not too old. -/
def Permits (c : Console) (last : UInt32) : Event → Prop
  | .receive bytes => c.waiting.length + bytes.length ≤ loopbackLength
  | .collect => True
  | .poll now =>
    (c.waiting = [] → c.session.inProgress = true → now - last < requestTimeout) ∧
      ∀ t ∈ (c.poll now).1, c.outbox.length + t.replyLength ≤ loopbackLength
  | .restart _ | .failWrites _ => False

/-- A run without overflows and without requests that grow too old, after a byte was taken at time
`last`. -/
def Undisturbed (c : Console) (last : UInt32) : List Event → Prop
  | [] => True
  | e :: es => c.Permits last e ∧ (c.handle e).Undisturbed (c.lastTaken last e) es

instance (c : Console) (last : UInt32) : DecidablePred (c.Permits last)
  | .receive _ => inferInstanceAs (Decidable (_ ≤ _))
  | .collect => .isTrue trivial
  | .poll _ => inferInstanceAs (Decidable (_ ∧ _))
  | .restart _ | .failWrites _ => .isFalse id

instance decidableUndisturbed (c : Console) (last : UInt32) :
    DecidablePred (c.Undisturbed last)
  | [] => .isTrue trivial
  | e :: es =>
    have := decidableUndisturbed (c.handle e) (c.lastTaken last e) es
    inferInstanceAs (Decidable (_ ∧ _))

section
variable {c c' c'' : Console} {last now : UInt32} {es : List Event} {used used' : List UInt8}
  {ts ts' : List Transaction} {answers answers' : List UInt8}

lemma Undisturbed.of_append {fs : List Event} (h : c.Undisturbed last (es ++ fs)) :
    c.Undisturbed last es := by
  induction es generalizing c last with
  | nil => trivial
  | cons e es ih => exact ⟨h.1, ih h.2⟩

/-- The requests that bytes complete, as demands on the store as it is. -/
def demands (c : Console) (bytes : List UInt8) : List Demand :=
  (c.session.decoder.feed 0 bytes).1.map fun request => ⟨request.2, c.endpoint.store.failWrites⟩

/-- A console that takes `used` and does what these bytes ask for is left as `c'`. -/
structure Serves (c : Console) (used : List UInt8) (transactions : List Transaction)
    (answers : List UInt8) (c' : Console) : Prop where
  decoder : c'.session.decoder = (c.session.decoder.feed 0 used).2
  failing : c'.endpoint.store.failWrites = c.endpoint.store.failWrites
  memory : c'.endpoint.memory = c.endpoint.memory.afterAll (c.demands used)
  transactions : transactions = (c.demands used).map Demand.transaction
  answers : answers = (c.endpoint.memory.replies (c.demands used)).flatten

lemma Serves.of_demands {ds : List Demand} (asked : c.demands used = ds)
    (decoder : c'.session.decoder = (c.session.decoder.feed 0 used).2)
    (failing : c'.endpoint.store.failWrites = c.endpoint.store.failWrites)
    (memory : c'.endpoint.memory = c.endpoint.memory.afterAll ds) :
    c.Serves used (ds.map Demand.transaction) (c.endpoint.memory.replies ds).flatten c' := by
  subst asked
  exact ⟨decoder, failing, memory, rfl, rfl⟩

lemma Serves.nothing (decoder : c'.session.decoder = c.session.decoder)
    (failing : c'.endpoint.store.failWrites = c.endpoint.store.failWrites)
    (memory : c'.endpoint.memory = c.endpoint.memory) : c.Serves [] [] [] c' :=
  .of_demands rfl decoder failing memory

lemma Serves.demands_append (h : c.Serves used ts answers c') (bytes : List UInt8) :
    c.demands (used ++ bytes) = c.demands used ++ c'.demands bytes := by
  rw [demands, Decoder.feed_append, List.map_append, ← h.decoder,
    Decoder.feed_shift _ (0 + used.length)]
  simp only [List.map_map, Function.comp_def, demands, h.failing]

lemma Serves.trans (h : c.Serves used ts answers c') (h' : c'.Serves used' ts' answers' c'') :
    c.Serves (used ++ used') (ts ++ ts') (answers ++ answers') c'' where
  decoder := by
    rw [Decoder.feed_append, ← h.decoder, Decoder.feed_shift _ (0 + used.length), h'.decoder]
  failing := h'.failing.trans h.failing
  memory := by rw [h.demands_append, Memory.afterAll_append, ← h.memory, h'.memory]
  transactions := by rw [h.demands_append, List.map_append, ← h.transactions, ← h'.transactions]
  answers := by
    rw [h.demands_append, Memory.replies_append, List.flatten_append, ← h.answers, ← h.memory,
      ← h'.answers]

/-- The session remembers when the last byte was taken, as long as a request is incomplete. -/
def Fresh (c : Console) (last : UInt32) : Prop :=
  c.session.inProgress = true → c.session.lastByte = last

/-- After all bytes were taken, an incomplete request is not too old. -/
lemma Fresh.dry {decoder : Decoder} (fresh : c.Fresh last)
    (young : c.waiting = [] → c.session.inProgress = true → now - last < requestTimeout)
    (fed : ∀ p, c.session.decoder.feed p c.waiting = ([], decoder)) :
    let s : Session := ⟨decoder, if c.waiting = [] then c.session.lastByte else now⟩
    s.inProgress = true →
      s.lastByte = c.lastTaken last (.poll now) ∧ now - s.lastByte < requestTimeout := by
  intro s unfinished
  by_cases dry : c.waiting = []
  · -- nothing was taken: the decoder and the age of the last byte are what they were
    have same : c.session.decoder = decoder := by
      have fed := fed 0
      rw [dry] at fed
      exact congrArg Prod.snd fed
    have unfinished : c.session.inProgress = true := by
      rw [Session.inProgress, same]
      exact unfinished
    rw [lastTaken, if_pos dry, show s.lastByte = c.session.lastByte from if_pos dry,
      fresh unfinished]
    exact ⟨rfl, young dry unfinished⟩
  · rw [lastTaken, if_neg dry, show s.lastByte = now from if_neg dry, UInt32.sub_self]
    exact ⟨rfl, by decide⟩

/-- What a poll takes off the front of the bytes that wait, it serves. -/
lemma serves_poll (fresh : c.Fresh last) (permits : c.Permits last (.poll now)) :
    ∃ used answers, c.waiting = used ++ (c.poll now).2.waiting ∧
      c.Serves used (c.poll now).1.toList answers (c.poll now).2 ∧
      (c.poll now).2.outbox = c.outbox ++ answers ∧
      (c.poll now).2.Fresh (c.lastTaken last (.poll now)) := by
  obtain ⟨young, room⟩ := permits
  have polled := c.polled now
  generalize c.poll now = r at polled room ⊢
  obtain ⟨transaction, s, e⟩ := r
  change c.session.Polled c.endpoint now transaction s e at polled
  cases polled with
  | @answer used incoming request decoder split completes =>
    -- one request is taken and served, and the time of its last byte is now
    obtain ⟨first, last', rfl, fed⟩ := completes
    have asked : c.demands (first ++ [last']) = [⟨request, c.endpoint.store.failWrites⟩] := by
      rw [demands, fed]
      rfl
    simp only [Endpoint.serve_ram] at room ⊢
    refine ⟨first ++ [last'], _, split, .of_demands asked (by rw [fed]) rfl rfl, ?_, ?_⟩
    · have fits := room _ rfl
      rw [← Memory.length_reply c.endpoint.memory] at fits
      refine (Fifo.entries_append?_getD_of_le fits).trans ?_
      exact congrArg (c.outbox ++ ·) (List.append_nil _).symm
    · have some_waiting : c.waiting ≠ [] := by
        rw [waiting, split]
        simp
      rw [lastTaken, if_neg some_waiting]
      exact fun _ => rfl
  | @dry decoder fed =>
    -- all bytes are taken and ask for nothing, and the unfinished request is young enough to stay
    have nothing : c.demands c.waiting = [] := by
      rw [demands, show c.session.decoder.feed 0 c.waiting = _ from fed 0]
      rfl
    have dry := fresh.dry young fed
    have kept := Session.expire_of_young fun unfinished => (dry unfinished).2
    have taken : decoder = (c.session.decoder.feed 0 c.waiting).2 := (congrArg Prod.snd (fed 0)).symm
    rw [show c.endpoint.transport.incoming.entries = c.waiting from rfl, kept]
    refine ⟨c.waiting, [], (List.append_nil _).symm, .of_demands nothing taken rfl rfl,
      (List.append_nil _).symm, ?_⟩
    exact fun unfinished => (dry unfinished).1

/-- An event that is permitted takes bytes off the front of those that wait and those that come, and
serves them. -/
lemma serves_handle {e : Event} (fresh : c.Fresh last) (permits : c.Permits last e) :
    ∃ used answers, c.waiting ++ e.bytes = used ++ (c.handle e).waiting ∧
      c.Serves used (c.outcome e).toList answers (c.handle e) ∧
      c.collected e ++ (c.handle e).outbox = c.outbox ++ answers ∧
      (c.handle e).Fresh (c.lastTaken last e) := by
  cases e with
  | receive bytes =>
    have taken : bytes.take (loopbackLength - c.waiting.length) = bytes :=
      List.take_of_length_le (by have : _ + _ ≤ _ := permits; omega)
    refine ⟨[], [], ?_, .nothing rfl rfl rfl, (List.append_nil _).symm, fresh⟩
    exact congrArg (c.waiting ++ ·) taken.symm
  | collect =>
    exact ⟨[], [], List.append_nil _, .nothing rfl rfl rfl, rfl, fresh⟩
  | poll now =>
    obtain ⟨used, answers, split, serves, sent, fresh⟩ := serves_poll fresh permits
    exact ⟨used, answers, (List.append_nil _).trans split, serves, sent, fresh⟩
  | restart | failWrites => exact permits.elim

/-- A run takes bytes off the front of those that wait and those that come, and serves them. -/
lemma serves_run (fresh : c.Fresh last) (undisturbed : c.Undisturbed last es) :
    ∃ used answers, c.waiting ++ received es = used ++ (c.run es).waiting ∧
      c.Serves used (c.transactions es) answers (c.run es) ∧ c.sent es = c.outbox ++ answers := by
  -- from the left: what the first event takes stands in front of what the others take
  induction es generalizing c last with
  | nil => exact ⟨[], [], List.append_nil _, .nothing rfl rfl rfl, (List.append_nil _).symm⟩
  | cons e es ih =>
    obtain ⟨permits, undisturbed⟩ := undisturbed
    obtain ⟨used, answers, split, serves, sent, fresh⟩ := serves_handle fresh permits
    obtain ⟨used', answers', split', serves', sent'⟩ := ih fresh undisturbed
    refine ⟨used ++ used', answers ++ answers', ?_, serves.trans serves', ?_⟩
    · calc c.waiting ++ received (e :: es)
          = c.waiting ++ e.bytes ++ received es := (List.append_assoc ..).symm
        _ = used ++ ((c.handle e).waiting ++ received es) := by rw [split, List.append_assoc]
        _ = used ++ used' ++ (c.run (e :: es)).waiting := by
          rw [split', List.append_assoc]
          rfl
    · calc c.sent (e :: es)
          = c.collected e ++ (c.handle e).outbox ++ answers' := by
            rw [Console.sent, sent', List.append_assoc]
        _ = c.outbox ++ (answers ++ answers') := by rw [sent, List.append_assoc]

/-- What the grammar finds in bytes. -/
def reading (c : Console) (bytes : List UInt8) : Reading :=
  .ofBytes c.session.decoder.version 0 bytes

/-- A decoder that waits for a request completes those that the grammar finds. -/
lemma requests_reading (idle : c.session.inProgress = false) (bytes : List UInt8) :
    (c.reading bytes).requests = (c.session.decoder.feed 0 bytes).1 := by
  obtain ⟨decoder, fed, -, -⟩ := Decoder.feed_eq_reading (Decoder.holds_of_idle idle) 0 bytes
  rw [fed]
  rfl

/-- A run did what the grammar finds in the bytes that it took. -/
structure Follows (c : Console) (used : List UInt8) (es : List Event) : Prop where
  transactions : c.transactions es =
    ((c.reading used).demands c.endpoint.store.failWrites).map Demand.transaction
  sent : c.sent es = c.outbox ++
    (c.endpoint.memory.replies ((c.reading used).demands c.endpoint.store.failWrites)).flatten
  memory : (c.run es).endpoint.memory =
    c.endpoint.memory.afterAll ((c.reading used).demands c.endpoint.store.failWrites)
  inProgress : (c.run es).session.inProgress = (c.reading used).cutOff.isSome

/-- A console that waits for a request follows the grammar in what it takes. -/
lemma Serves.follows (idle : c.session.inProgress = false)
    (serves : c.Serves used (c.transactions es) answers (c.run es))
    (sent : c.sent es = c.outbox ++ answers) : c.Follows used es := by
  obtain ⟨decoder, fed, -, holds⟩ := Decoder.feed_eq_reading (Decoder.holds_of_idle idle) 0 used
  have asked : c.demands used = (c.reading used).demands c.endpoint.store.failWrites := by
    rw [demands, ← requests_reading idle]
    rfl
  constructor
  · rw [← asked]
    exact serves.transactions
  · rw [← asked, sent, serves.answers]
  · rw [← asked]
    exact serves.memory
  · rw [Session.inProgress, serves.decoder, fed]
    exact holds.inProgress

/-- A poll with an answer takes the bytes that wait up to the last byte of the request. -/
lemma poll_position {before : List Event} {t : Transaction} (rest : List UInt8)
    (idle : c.session.inProgress = false)
    (serves : c.Serves used (c.transactions before) answers (c.run before))
    (answered : ((c.run before).poll now).1 = some t) :
    ∃ position request,
      (c.reading (used ++ ((c.run before).waiting ++ rest))).requests[(c.transactions before).length]? =
        some (position, request) ∧
      t = Demand.transaction ⟨request, c.endpoint.store.failWrites⟩ ∧
      position < (used ++ (c.run before).waiting).length ∧
      ((c.run before).poll now).2.waiting = (used ++ (c.run before).waiting).drop (position + 1) := by
  have polled := (c.run before).polled now
  generalize (c.run before).poll now = r at polled answered ⊢
  obtain ⟨transaction, s, e⟩ := r
  obtain rfl : transaction = some t := answered
  change (c.run before).session.Polled (c.run before).endpoint now (some t) s e at polled
  cases polled with
  | @answer _ incoming request decoder split completes =>
    obtain ⟨first, last, rfl, fed⟩ := completes
    have wait : (c.run before).waiting = first ++ [last] ++ incoming.entries := split
    refine ⟨used.length + first.length, request, ?_, ?_, ?_, ?_⟩
    · -- the request stands behind those of the bytes that were taken before
      have count : (c.transactions before).length = (c.session.decoder.feed 0 used).1.length := by
        rw [serves.transactions, demands, List.length_map, List.length_map]
      rw [requests_reading idle, Decoder.feed_append, ← serves.decoder, wait, count,
        List.append_assoc (first ++ [last]), Decoder.feed_append, fed,
        List.getElem?_append_right (Nat.le_refl _), Nat.sub_self, Nat.zero_add]
      rfl
    · rw [Endpoint.serve_ram, ← serves.failing]
    · rw [wait]
      simp only [List.length_append, List.length_singleton]
      omega
    · have taken : used.length + first.length + 1 = (used ++ (first ++ [last])).length := by
        simp only [List.length_append, List.length_singleton]
        omega
      rw [wait, ← List.append_assoc, taken, List.drop_left, Endpoint.serve_ram]
      rfl

end

/-- A console that waits for a request does with bytes what the grammar finds in them, whatever the
deliveries in which they come and the times at which it is polled. So do the beginnings of a run with
the bytes that they took; those that they did not take still wait. A poll that answers a request has
taken the bytes up to the last one of the request. -/
theorem delivery_independent (c : Console) (last : UInt32) (es : List Event)
    (idle : c.session.inProgress = false) (undisturbed : c.Undisturbed last es) :
    ((c.run es).waiting = [] → c.Follows (c.waiting ++ received es) es) ∧
    (∀ before after, es = before ++ after →
      ∃ used, c.waiting ++ received before = used ++ (c.run before).waiting ∧ c.Follows used before) ∧
    ∀ before now after t, es = before ++ .poll now :: after →
      ((c.run before).poll now).1 = some t →
      ∃ position request,
        (c.reading (c.waiting ++ received es)).requests[(c.transactions before).length]? =
          some (position, request) ∧
        t = Demand.transaction ⟨request, c.endpoint.store.failWrites⟩ ∧
        position < (c.waiting ++ received before).length ∧
        ((c.run before).poll now).2.waiting = (c.waiting ++ received before).drop (position + 1) := by
  have fresh : c.Fresh last := by
    intro unfinished
    rw [idle] at unfinished
    cases unfinished
  refine ⟨fun taken => ?_, ?_, ?_⟩
  · obtain ⟨used, answers, split, serves, sent⟩ := serves_run fresh undisturbed
    rw [split, taken, List.append_nil]
    exact serves.follows idle sent
  · rintro before after rfl
    obtain ⟨used, answers, split, serves, sent⟩ := serves_run fresh undisturbed.of_append
    exact ⟨used, split, serves.follows idle sent⟩
  · rintro before now after t rfl answered
    obtain ⟨used, answers, split, serves, -⟩ := serves_run fresh undisturbed.of_append
    have whole : c.waiting ++ received (before ++ .poll now :: after) =
        used ++ ((c.run before).waiting ++ received after) := by
      rw [received, List.flatMap_append, ← List.append_assoc, ← List.append_assoc, ← split]
      rfl
    rw [whole, split]
    exact poll_position (received after) idle serves answered

/-- A READ behind an idle byte, and a WRITE that comes in two parts with a READ behind it. -/
def splitDelivery : List Event :=
  [.receive [7, 0, 1, 0], .poll 5, .receive [9, 1, 2], .poll 10, .poll 900, .collect,
    .receive [3, 4, 0], .poll 1800, .poll 1800]

/-- A request may take longer than the timeout, as long as no byte comes too late. What the WRITE
installs is live and stored afterwards, by one write besides that of the power-up. -/
theorem delivery_independent_split :
    let c := boot .basic (.holding Settings.erasedBlock)
    let installed : Settings := ⟨.delta, 9, ⟨⟨1, 2⟩, ⟨3, 4⟩⟩, .both .zero⟩
    (c.run splitDelivery).waiting = [] ∧ c.Undisturbed 0 splitDelivery ∧
      c.Follows [7, 0, 1, 0, 9, 1, 2, 3, 4, 0] splitDelivery ∧
      c.transactions splitDelivery = [.read, .written, .read] ∧
      (c.run splitDelivery).endpoint.memory = ⟨installed, installed.encode, 2⟩ := by
  intro c installed
  have taken : (c.run splitDelivery).waiting = [] := by decide +kernel
  have undisturbed : c.Undisturbed 0 splitDelivery := by decide +kernel
  refine ⟨taken, undisturbed, ?_, by decide +kernel, by decide +kernel⟩
  exact (delivery_independent c 0 splitDelivery (by decide) undisturbed).1 taken

end Console

end SpeedController.Link
