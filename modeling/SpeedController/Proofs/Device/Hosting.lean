import SpeedController.Proofs.Device.Calibration
import SpeedController.Proofs.Link.Pipeline
import SpeedController.Proofs.Link.Service

/-!
# Hosting

A device without a signal serves a host. Every request that waits costs two steps of the supervisor,
into the config phase and back to the start phase. `Hosting` says how far the device is, `Progress`
what was done on the way, and an event makes progress by one request at most (`Hosting.handle`). The
main statement is `pipelined_requests_served`.
-/

namespace SpeedController

open Link Power Receiver
open Settings (Store RamStore)

/-- Whether an event is a step of the supervisor. -/
def Event.isStep : Event → Bool
  | .step _ => true
  | _ => false

namespace Device

/-- What a session of the device works on. -/
def endpoint (d : BenchDevice) : Endpoint Loopback RamStore :=
  ⟨d.transport, d.store, d.status.settings⟩

/-- The answers that wait for the host. -/
def outbox (d : BenchDevice) : List UInt8 := d.transport.outgoing.entries

/-- What someone sees in a run who sees `see d e` when `e` happens to `d`. -/
def observed {α : Type} (d : BenchDevice) (see : BenchDevice → Event → List α) : List Event → List α
  | [] => []
  | e :: es => see d e ++ (d.handle e).observed see es

/-- The phase that a step answers. -/
def answered (d : BenchDevice) : Event → List Phase
  | .step now => [(d.step now).1]
  | _ => []

lemma length_answered (d : BenchDevice) (e : Event) :
    (d.answered e).length = if e.isStep = true then 1 else 0 := by
  cases e <;> rfl

lemma length_observed_answered (d : BenchDevice) (es : List Event) :
    (d.observed answered es).length = es.countP Event.isStep := by
  induction es generalizing d with
  | nil => rfl
  | cons e es ih =>
    rw [observed, List.length_append, length_answered, ih, List.countP_cons, Nat.add_comm]

/-- Whether the store fails when a host is served. -/
def refusal (d : BenchDevice) : Event → List Bool
  | .step _ => if d.status.phase = .config then [d.store.failWrites] else []
  | _ => []

/-- The answers that are handed to the host. -/
def collected (d : BenchDevice) : Event → List UInt8
  | .collect => d.outbox
  | _ => []

/-- No bytes come, and a step reads a bad signal and has room for the answer that it gives. -/
def Permits (d : BenchDevice) : Event → Prop
  | .receive _ => False
  | .step now => d.status.signalGood = false ∧ (d.status.phase = .config →
      ∀ t ∈ (d.supervisor.session.poll d.endpoint now).1,
        d.outbox.length + t.replyLength ≤ loopbackLength)
  | _ => True

/-- A run without new bytes, good signals and overflows. -/
def Undisturbed (d : BenchDevice) : List Event → Prop
  | [] => True
  | e :: es => d.Permits e ∧ (d.handle e).Undisturbed es

instance (d : BenchDevice) : DecidablePred d.Permits
  | .receive _ => .isFalse id
  | .step _ => inferInstanceAs (Decidable (_ ∧ _))
  | .edge _ _ | .watchdog | .drain | .pulse _ | .update | .overflow | .compare _ | .collect
  | .failWrites _ | .failLoads _ => .isTrue trivial

instance decidableUndisturbed (d : BenchDevice) : DecidablePred d.Undisturbed
  | [] => .isTrue trivial
  | e :: es =>
    have := decidableUndisturbed (d.handle e) es
    inferInstanceAs (Decidable (_ ∧ _))

section
variable {v : Version} {d d' d'' : BenchDevice} {request : Request} {requests : List Request}
  {entered entered' entered'' phases phases' : List Phase} {ds fs : List Demand}
  {refusals refusals' : List Bool} {handed handed' : List UInt8}

lemma Undisturbed.of_append {es fs : List Event} (h : d.Undisturbed (es ++ fs)) :
    d.Undisturbed es := by
  induction es generalizing d with
  | nil => trivial
  | cons e es ih => exact ⟨h.1, ih h.2⟩

/-- How far a device is with the requests that wait, and whether it has entered the config phase for
the first of them. -/
inductive Hosting (v : Version) (d : BenchDevice) (requests : List Request) : List Phase → Prop where
  | start :
    d.status.phase = .start → d.supervisor.calibrating = false →
    d.supervisor.session.decoder.version = v →
    Queued v requests d.transport.incoming.entries →
    Hosting v d requests []
  | config :
    d.status.phase = .config → d.supervisor.calibrating = false →
    d.supervisor.session.decoder.Holds none →
    d.supervisor.session.decoder.version = v →
    Queued v requests d.transport.incoming.entries →
    Hosting v d requests [.config]

/-- What is done on the way from `d` to `d'`: the demands `ds` are served, while these phases are
answered, these moods of the store are met and these answers are handed to the host. -/
structure Progress (d : BenchDevice) (entered : List Phase) (ds : List Demand) (phases : List Phase)
    (refusals : List Bool) (handed : List UInt8) (d' : BenchDevice) (entered' : List Phase) :
    Prop where
  phases : entered ++ phases = (ds.flatMap fun _ => [.config, .start]) ++ entered'
  refusals : refusals = ds.map Demand.failing
  memory : d'.endpoint.memory = d.endpoint.memory.afterAll ds
  answers : handed ++ d'.outbox = d.outbox ++ (d.endpoint.memory.replies ds).flatten

lemma Progress.trans (h : Progress d entered ds phases refusals handed d' entered')
    (h' : Progress d' entered' fs phases' refusals' handed' d'' entered'') :
    Progress d entered (ds ++ fs) (phases ++ phases') (refusals ++ refusals') (handed ++ handed')
      d'' entered'' where
  phases := by
    rw [← List.append_assoc, h.phases, List.append_assoc, h'.phases, List.flatMap_append,
      List.append_assoc]
  refusals := by rw [h.refusals, h'.refusals, List.map_append]
  memory := by rw [h'.memory, h.memory, Memory.afterAll_append]
  answers := by
    rw [List.append_assoc, h'.answers, ← List.append_assoc, h.answers, Memory.replies_append,
      List.flatten_append, List.append_assoc, h.memory]

/-- Nothing was asked for. -/
lemma Progress.idle (memory : d'.endpoint.memory = d.endpoint.memory)
    (answers : handed ++ d'.outbox = d.outbox) : Progress d entered [] [] [] handed d' entered :=
  ⟨List.append_nil _, rfl, memory, answers.trans (List.append_nil _).symm⟩

/-- Every request costs two steps. -/
lemma Progress.length (h : Progress d entered ds phases refusals handed d' entered') :
    entered.length + phases.length = 2 * ds.length + entered'.length := by
  have length := congrArg List.length h.phases
  simp only [List.length_append, List.length_flatMap, List.length_cons, List.length_nil,
    List.map_const', List.sum_replicate_nat] at length
  omega

lemma Hosting.keep (h : Hosting v d requests entered) (phase : d'.status.phase = d.status.phase)
    (supervisor : d'.supervisor = d.supervisor)
    (incoming : d'.transport.incoming = d.transport.incoming) : Hosting v d' requests entered := by
  cases h with
  | start start free version queued =>
    rw [← phase] at start
    rw [← supervisor] at free version
    rw [← incoming] at queued
    exact .start start free version queued
  | config config free holds version queued =>
    rw [← phase] at config
    rw [← supervisor] at free holds version
    rw [← incoming] at queued
    exact .config config free holds version queued

/-- The device `d'` differs from `d` in nothing that concerns a host. -/
structure Aside (d d' : BenchDevice) : Prop where
  phase : d'.status.phase = d.status.phase
  supervisor : d'.supervisor = d.supervisor
  transport : d'.transport = d.transport
  memory : d'.endpoint.memory = d.endpoint.memory

lemma Aside.trans (h : Aside d d') (h' : Aside d' d'') : Aside d d'' where
  phase := h'.phase.trans h.phase
  supervisor := h'.supervisor.trans h.supervisor
  transport := h'.transport.trans h.transport
  memory := h'.memory.trans h.memory

lemma aside_update (d : BenchDevice) : Aside d d.update.2 := by
  obtain ⟨due, steering, motors, frame⟩ := d.update_frame
  rw [frame]
  exact ⟨rfl, rfl, rfl, rfl⟩

lemma aside_onPulse (d : BenchDevice) (p : Pulse) : Aside d (d.onPulse p).2 := by
  obtain ⟨due, steering, motors, frame⟩ := d.onPulse_frame p
  rw [frame]
  exact ⟨rfl, rfl, rfl, rfl⟩

lemma aside_onPulses (d : BenchDevice) (ps : List Pulse) :
    Aside d (ps.foldl (fun d p => (d.onPulse p).2) d) := by
  induction ps generalizing d with
  | nil => exact ⟨rfl, rfl, rfl, rfl⟩
  | cons p ps ih => exact (aside_onPulse d p).trans (ih _)

lemma aside_edge (d : BenchDevice) (channel : Channel) (now : UInt16) :
    Aside d (d.edge channel now).2 := by
  obtain ⟨queue, frame⟩ := d.edge_frame channel now
  rw [frame]
  exact ⟨rfl, rfl, rfl, rfl⟩

/-- No step of the supervisor lies between `d` and `d'`, and `bytes` came. -/
structure Passed (d : BenchDevice) (bytes : List UInt8) (d' : BenchDevice) : Prop where
  phase : d'.status.phase = d.status.phase
  supervisor : d'.supervisor = d.supervisor
  incoming : d'.transport.incoming = d.transport.incoming.offer bytes
  memory : d'.endpoint.memory = d.endpoint.memory

lemma Aside.passed (h : Aside d d') : Passed d [] d' :=
  ⟨h.phase, h.supervisor, (congrArg Loopback.incoming h.transport).trans (Fifo.offer_nil _).symm,
    h.memory⟩

lemma Passed.trans {bs cs : List UInt8} (h : Passed d bs d') (h' : Passed d' cs d'') :
    Passed d (bs ++ cs) d'' where
  phase := h'.phase.trans h.phase
  supervisor := h'.supervisor.trans h.supervisor
  incoming := by rw [h'.incoming, h.incoming, Fifo.offer_append]
  memory := h'.memory.trans h.memory

/-- Between steps bytes can only come, and neither the supervisor nor what a host reads and changes
is touched. -/
lemma passed_handle (d : BenchDevice) {e : Event} (between : e.isStep = false) :
    Passed d e.bytes (d.handle e) := by
  cases e with
  | step now => cases between
  | receive bytes => exact ⟨rfl, rfl, rfl, rfl⟩
  | edge channel now => exact (aside_edge d channel now).passed
  | pulse p => exact (aside_onPulse d p).passed
  | update => exact (aside_update d).passed
  | drain =>
    have aside := aside_onPulses d d.queue.entries
    exact Aside.passed { aside with }
  | watchdog | overflow | compare | collect | failWrites | failLoads =>
    exact ⟨rfl, rfl, (Fifo.offer_nil _).symm, rfl⟩

lemma Hosting.aside (h : Hosting v d requests entered) (aside : Aside d d') :
    Hosting v d' requests entered ∧ Progress d entered [] [] [] [] d' entered := by
  constructor
  · exact h.keep aside.phase aside.supervisor (congrArg Loopback.incoming aside.transport)
  · exact .idle aside.memory (congrArg (·.outgoing.entries) aside.transport)

/-- In the start phase a step enters the config phase for the first request. -/
lemma Hosting.greet {now : UInt32} (h : Hosting v d (request :: requests) [])
    (permits : d.Permits (.step now)) :
    Hosting v (d.step now).2 (request :: requests) [.config] ∧
      Progress d [] [] [(d.step now).1] (d.refusal (.step now)) [] (d.step now).2 [.config] := by
  have transition := step_transition d now
  rw [refusal]
  generalize (d.step now).1 = p at transition ⊢
  generalize (d.step now).2 = d' at transition ⊢
  have lost : d.status.signalGood = false := permits.1
  cases h with
  | start start free version queued =>
    cases transition with
    | greet _ _ _ data =>
      obtain rfl : d.transport = _ := congrArg Prod.snd data
      rw [start]
      constructor
      · exact .config (Status.phase_enter _ _) free (.idle rfl) version queued
      · exact ⟨rfl, rfl, rfl, (List.append_nil _).symm⟩
    | idle _ _ _ data =>
      -- a request that is queued has bytes
      have dry : (!d.transport.incoming.entries.isEmpty) = false := congrArg Prod.fst data
      exact absurd (by simpa using dry) queued.ne_nil
    | ask _ _ good => simp [lost] at good
    | withdraw _ waiting | wait _ waiting | launch _ waiting => simp [free] at waiting
    | drive driving | brake driving => exact absurd start driving.ne_start
    | answer config | listen config => simp [start] at config
    | halt fault => simp [start] at fault

/-- In the config phase a step answers the first request and leaves the phase. -/
lemma Hosting.answer {now : UInt32} (h : Hosting v d (request :: requests) [.config])
    (permits : d.Permits (.step now)) :
    Hosting v (d.step now).2 requests [] ∧
      Progress d [.config] [⟨request, d.store.failWrites⟩] [(d.step now).1]
        (d.refusal (.step now)) [] (d.step now).2 [] := by
  have transition := step_transition d now
  have polled := d.supervisor.session.poll_polled d.endpoint now
  rw [refusal]
  generalize (d.step now).1 = p at transition ⊢
  generalize (d.step now).2 = d' at transition ⊢
  have room := permits.2
  cases h with
  | config config free holds version queued =>
    cases transition with
    | @answer transaction session endpoint _ answered =>
      rw [show d.supervisor.session.poll d.endpoint now = _ from answered] at polled room
      obtain ⟨incoming, served, rfl, holds', queued'⟩ := polled.first holds version queued
      have version' : session.decoder.version = v := polled.version.trans version
      rw [Endpoint.serve_ram] at served ⊢
      obtain rfl := Option.some.inj served
      rw [config]
      refine ⟨.start (Status.phase_enter _ _) free version' queued', rfl, rfl, rfl, ?_⟩
      have fits := room config _ rfl
      rw [← Memory.length_reply d.endpoint.memory] at fits
      refine (Fifo.entries_append?_getD_of_le fits).trans ?_
      exact congrArg (d.outbox ++ ·) (List.append_nil _).symm
    | listen _ unanswered =>
      -- the poll finds the request that is queued first
      rw [show d.supervisor.session.poll d.endpoint now = _ from unanswered] at polled
      obtain ⟨incoming, served, -⟩ := polled.first holds version queued
      cases served
    | ask start | greet start | idle start | withdraw start | wait start | launch start =>
      simp [config] at start
    | drive driving | brake driving => simp [Driving, config] at driving
    | halt fault => simp [config] at fault

/-- An event makes progress with the requests that wait, by one of them at most. -/
lemma Hosting.handle {e : Event} (h : Hosting v d requests entered) (permits : d.Permits e)
    (unserved : e.isStep = true → requests ≠ []) :
    ∃ ds rest entered', requests = ds.map Demand.request ++ rest ∧
      Hosting v (d.handle e) rest entered' ∧
      Progress d entered ds (d.answered e) (d.refusal e) (d.collected e) (d.handle e) entered' := by
  cases e with
  | step now =>
    obtain ⟨request, rest, rfl⟩ := List.exists_cons_of_ne_nil (unserved rfl)
    cases h with
    | start start free version queued =>
      have hosting : Hosting v d (request :: rest) [] := .start start free version queued
      exact ⟨[], request :: rest, [.config], rfl, hosting.greet permits⟩
    | config config free holds version queued =>
      have hosting : Hosting v d (request :: rest) [.config] :=
        .config config free holds version queued
      exact ⟨[⟨request, d.store.failWrites⟩], rest, [], rfl, hosting.answer permits⟩
  | receive bytes => exact permits.elim
  | edge channel now => exact ⟨[], requests, entered, rfl, h.aside (aside_edge d channel now)⟩
  | pulse p => exact ⟨[], requests, entered, rfl, h.aside (aside_onPulse d p)⟩
  | update => exact ⟨[], requests, entered, rfl, h.aside (aside_update d)⟩
  | drain =>
    have aside := aside_onPulses d d.queue.entries
    exact ⟨[], requests, entered, rfl, h.aside { aside with }⟩
  | watchdog | overflow | compare | failWrites | failLoads =>
    exact ⟨[], requests, entered, rfl, h.aside ⟨rfl, rfl, rfl, rfl⟩⟩
  | collect =>
    refine ⟨[], requests, entered, rfl, h.keep rfl rfl rfl, .idle rfl ?_⟩
    exact List.append_nil _

/-- A run makes progress with the requests that wait, by one of them in two steps. -/
lemma Hosting.run {es : List Event} (h : Hosting v d requests entered)
    (undisturbed : d.Undisturbed es)
    (enough : entered.length + es.countP Event.isStep ≤ 2 * requests.length) :
    ∃ ds rest entered', requests = ds.map Demand.request ++ rest ∧
      Hosting v (d.run es) rest entered' ∧
      Progress d entered ds (d.observed answered es) (d.observed refusal es)
        (d.observed collected es) (d.run es) entered' := by
  induction es generalizing d requests entered with
  | nil => exact ⟨[], requests, entered, rfl, h, .idle rfl rfl⟩
  | cons e es ih =>
    obtain ⟨permits, undisturbed⟩ := undisturbed
    rw [List.countP_cons] at enough
    have unserved : e.isStep = true → requests ≠ [] := by
      rintro step rfl
      rw [if_pos step, List.length_nil] at enough
      omega
    obtain ⟨ds, rest, entered', rfl, h', progress⟩ := h.handle permits unserved
    -- the steps that are left are enough for the requests that are left
    have left : entered'.length + es.countP Event.isStep ≤ 2 * rest.length := by
      have length := progress.length
      rw [length_answered] at length
      rw [List.length_append, List.length_map] at enough
      omega
    obtain ⟨fs, rest', entered'', rfl, h'', progress'⟩ := ih h' undisturbed left
    refine ⟨ds ++ fs, rest', entered'', ?_, h'', progress.trans progress'⟩
    rw [List.map_append, List.append_assoc]

/-- With two steps for each request, all of them are served and the device is back in the start
phase. -/
lemma Hosting.run_all {es : List Event} (h : Hosting v d requests []) (undisturbed : d.Undisturbed es)
    (steps : es.countP Event.isStep = 2 * requests.length) :
    ∃ ds : List Demand, ds.map Demand.request = requests ∧ Hosting v (d.run es) [] [] ∧
      Progress d [] ds (d.observed answered es) (d.observed refusal es)
        (d.observed collected es) (d.run es) [] := by
  obtain ⟨ds, rest, entered, split, h', progress⟩ :=
    h.run undisturbed (by rw [List.length_nil]; omega)
  have length := progress.length
  rw [length_observed_answered] at length
  have all := congrArg List.length split
  rw [List.length_append, List.length_map] at all
  cases h' with
  | config =>
    -- the number of steps would be odd
    simp only [List.length_cons, List.length_nil] at length
    omega
  | start start free version queued =>
    simp only [List.length_nil] at length
    obtain rfl : rest = [] := List.length_eq_zero_iff.1 (by omega)
    rw [List.append_nil] at split
    exact ⟨ds, split.symm, .start start free version queued, progress⟩

/-- Hosting leaves the motors off. -/
lemma Guarded.off (g : d.Guarded) (h : Hosting v d requests entered) :
    d.motors.latch.enabled = false ∧ ∀ m leg, d.motors.stage.line m leg = false := by
  have quiet : d.status.phase ≠ .active := by
    cases h with
    | start phase | config phase => simp [phase]
  refine ⟨Bool.eq_false_iff.2 fun enabled => quiet (g.enabled_iff.1 enabled), fun m leg => ?_⟩
  exact g.line_eq_false quiet m leg

lemma Move.version {acts : List Act} (h : Move d acts d') :
    d'.supervisor.session.decoder.version = d.supervisor.session.decoder.version := by
  cases h with
  | sense | sample | calibrate | mix | interrupt | outside => rfl
  | @step now _ _ h =>
    cases h with
    | ask | greet | idle | withdraw | wait | launch | drive | brake | halt => rfl
    | answer _ polled | listen _ polled =>
      have version := (d.supervisor.session.poll_polled d.endpoint now).version
      rw [show d.supervisor.session.poll d.endpoint now = _ from polled] at version
      exact version

lemma Moves.version {acts : List Act} (h : Moves d acts d') :
    d'.supervisor.session.decoder.version = d.supervisor.session.decoder.version := by
  induction h with
  | refl => rfl
  | tail _ last ih => exact last.version.trans ih

end

/-- In every state of the start phase in which no calibration is waited for, as many requests as wait
are served by twice as many steps that read bad signals, whatever their times. The steps lead in
turn into the config phase and back. All bytes are taken, every request is answered, in order, and
those whose write was not refused are live and stored: if the block yields the live settings at first,
it does so in the end. The motors are off all the while. -/
theorem pipelined_requests_served (version : Version) (transport : Loopback) (store : RamStore)
    (past es : List Event) (requests : List Request) :
    let d := (boot version transport store).2.run past
    let d' := d.run es
    d.status.phase = .start → d.supervisor.calibrating = false →
    Queued version requests d.transport.incoming.entries → d.Undisturbed es →
    es.countP Event.isStep = 2 * requests.length →
    (∃ ds : List Demand, ds.map Demand.request = requests ∧
      ds.map Demand.failing = d.observed refusal es ∧
      d'.endpoint.memory = d.endpoint.memory.afterAll ds ∧
      d.observed collected es ++ d'.outbox = d.outbox ++ (d.endpoint.memory.replies ds).flatten) ∧
    (Settings.effective d.store.block = d.status.settings →
      Settings.effective d'.store.block = d'.status.settings) ∧
    d.observed answered es = (requests.flatMap fun _ => [.config, .start]) ∧
    d'.transport.incoming.entries = [] ∧ d'.status.phase = .start ∧
    ∀ before after, es = before ++ after →
      (d.run before).motors.latch.enabled = false ∧
      ∀ m leg, (d.run before).motors.stage.line m leg = false := by
  intro d d' start free queued undisturbed steps
  have moves := moves_run (boot version transport store).2 past
  have guarded : d.Guarded := (guarded_boot version transport store).moves moves
  have hosting : Hosting version d requests [] := .start start free moves.version queued
  obtain ⟨ds, rfl, hosting', progress⟩ := hosting.run_all undisturbed steps
  have phases := progress.phases
  rw [List.append_nil, List.nil_append] at phases
  cases hosting' with
  | start start' _ _ queued' =>
    refine ⟨⟨ds, rfl, progress.refusals.symm, progress.memory, progress.answers⟩, fun settled => ?_,
      ?_, queued'.eq_nil, start', ?_⟩
    · have kept := Memory.effective_afterAll (m := d.endpoint.memory) settled ds
      rw [← progress.memory] at kept
      exact kept
    · rw [List.flatMap_map]
      exact phases
    · rintro before after rfl
      rw [List.countP_append] at steps
      obtain ⟨_, _, _, -, hosting, -⟩ := hosting.run undisturbed.of_append
        (by rw [List.length_nil]; omega)
      exact (guarded.moves (moves_run d before)).off hosting

/-- A READ behind an idle byte, a WRITE that comes when the store fails, and one that is stored: its
mode, deadzone and travel and the planes of its coefficients are live and stored in the end. -/
theorem pipelined_requests_served_refusal :
    let d := (boot .mixer .empty (.holding Settings.erasedBlock)).2.run
      [.receive ([9, 0] ++ [1, 2, 7, 10, 240, 20, 230, 0, 0, 0, 1, 0, 0, 0, 2, 0, 0, 0, 3] ++
        [1, 0, 9, 1, 249, 2, 248, 0, 0, 0, 5, 0, 0, 0, 6, 255, 255, 255, 254])]
    let es := [.step 5, .step 4, .failWrites true, .step 9, .step 3, .failWrites false, .step 8,
      .step 12]
    let w : WriteRequest := ⟨.tank, 7, ⟨⟨10, 240⟩, ⟨20, 230⟩⟩, some ⟨1, 2, 3⟩⟩
    let w' : WriteRequest := ⟨.delta, 9, ⟨⟨1, 249⟩, ⟨2, 248⟩⟩, some ⟨5, 6, -2⟩⟩
    d.status.phase = .start ∧ d.supervisor.calibrating = false ∧
      Queued .mixer [.read, .write w, .write w'] d.transport.incoming.entries ∧ d.Undisturbed es ∧
      d.observed answered es = [.config, .start, .config, .start, .config, .start] ∧
      d.observed refusal es = [false, true, false] ∧
      (d.run es).outbox = [1, 2, 5, 0, 250, 0, 250, 0, 1] ∧
      (d.run es).status.settings = ⟨.delta, 9, ⟨⟨1, 249⟩, ⟨2, 248⟩⟩, ⟨⟨5, -2, -2⟩, ⟨6, -2, 2⟩⟩⟩ ∧
      Settings.effective (d.run es).store.block =
        ⟨.delta, 9, ⟨⟨1, 249⟩, ⟨2, 248⟩⟩, ⟨⟨5, -2, -2⟩, ⟨6, -2, 2⟩⟩⟩ := by
  intro d es w w'
  have start : d.status.phase = .start := rfl
  have free : d.supervisor.calibrating = false := rfl
  have last : Queued .mixer [.write w'] (writeKind ::
      ([0, 9, 1, 249, 2, 248, 0, 0, 0, 5, 0, 0, 0, 6, 255, 255, 255, 254] ++ [])) := .write rfl .nil
  have writes : Queued .mixer [.write w, .write w'] (writeKind ::
      ([2, 7, 10, 240, 20, 230, 0, 0, 0, 1, 0, 0, 0, 2, 0, 0, 0, 3] ++ _)) := .write rfl last
  have queued : Queued .mixer [.read, .write w, .write w'] d.transport.incoming.entries :=
    .skip (by decide) (by decide) (.read writes)
  have undisturbed : d.Undisturbed es := by decide +kernel
  obtain ⟨-, -, phases, -⟩ := pipelined_requests_served .mixer .empty (.holding Settings.erasedBlock)
    _ es [.read, .write w, .write w'] start free queued undisturbed rfl
  exact ⟨start, free, queued, undisturbed, phases, by decide +kernel, by decide +kernel,
    by decide +kernel, by decide +kernel⟩

end Device

end SpeedController
