import SpeedController.Proofs.Link.Console

/-!
# Consistency of the settings

The live settings of a console are those that its stored block yields (`Settled`), at power-up and
after every event, so a reboot finds them again. `Effect` says what a poll does: only a poll that
ends a WRITE changes the settings or the block, and it changes both alike. Consoles that differ in
nothing but the answers that wait for the host stay so (`Alike.run_filter`), so none of this depends
on whether the answers can be sent. The main statement is `live_settings_stored`.
-/

namespace SpeedController.Link

open Settings (Store RamStore)

namespace Console

/-- Two consoles that differ in nothing but the answers that wait for the host. -/
inductive Alike (c : Console) : Console → Prop where
  | intro (outgoing) :
    Alike c { c with endpoint.transport.outgoing := outgoing }

lemma Alike.refl (c : Console) : Alike c c := .intro c.endpoint.transport.outgoing

lemma Alike.symm {c c' : Console} (alike : Alike c c') : Alike c' c := by
  cases alike
  exact .intro c.endpoint.transport.outgoing

lemma Alike.trans {c c' c'' : Console} (alike : Alike c c') (alike' : Alike c' c'') :
    Alike c c'' := by
  cases alike
  cases alike'
  exact .intro _

lemma Alike.memory_eq {c c' : Console} (alike : Alike c c') :
    c'.endpoint.memory = c.endpoint.memory := by
  cases alike
  rfl

/-- A poll takes no notice of the answers that wait. -/
lemma Alike.poll {c c' : Console} (alike : Alike c c') (now : UInt32) :
    (c'.poll now).1 = (c.poll now).1 ∧ Alike (c.poll now).2 (c'.poll now).2 := by
  obtain ⟨outgoing⟩ := alike
  have polled := c.polled now
  have polled' := Console.polled { c with endpoint.transport.outgoing := outgoing } now
  generalize c.poll now = r at polled ⊢
  generalize Console.poll { c with endpoint.transport.outgoing := outgoing } now = r' at polled' ⊢
  obtain ⟨transaction, s, e⟩ := r
  obtain ⟨transaction', s', e'⟩ := r'
  -- both poll the same bytes, so they come to the same end
  cases polled with
  | answer split completes =>
    cases polled' with
    | answer split' completes' =>
      obtain ⟨rfl, rfl, rfl⟩ := completes.unique completes' (split.symm.trans split')
      obtain rfl := Fifo.eq_of_entries (List.append_cancel_left (split.symm.trans split'))
      simp only [Endpoint.serve_ram, true_and]
      exact .intro _
    | dry fed => exact absurd (split ▸ fed 0) (completes.not_dry 0)
  | dry fed =>
    cases polled' with
    | answer split completes => exact absurd (split ▸ fed 0) (completes.not_dry 0)
    | dry fed' =>
      cases (fed 0).symm.trans (fed' 0)
      exact ⟨rfl, .intro _⟩

/-- An event that collects no answers takes no notice of them. -/
lemma Alike.handle {c c' : Console} (alike : Alike c c') {e : Event} (other : e ≠ .collect) :
    c'.outcome e = c.outcome e ∧ Alike (c.handle e) (c'.handle e) := by
  cases e with
  | collect => exact absurd rfl other
  | poll now => exact alike.poll now
  | receive bytes | restart now | failWrites fail =>
    obtain ⟨outgoing⟩ := alike
    exact ⟨rfl, .intro outgoing⟩

/-- A run goes on as if no answers were collected. -/
lemma Alike.run_filter {c c' : Console} (alike : Alike c c') (es : List Event) :
    c'.transactions (es.filter (· ≠ .collect)) = c.transactions es ∧
      Alike (c.run es) (c'.run (es.filter (· ≠ .collect))) := by
  induction es generalizing c c' with
  | nil => exact ⟨rfl, alike⟩
  | cons e es ih =>
    by_cases collects : e = .collect
    · subst collects
      exact ih (.trans (.symm (.intro .empty)) alike)
    · rw [List.filter_cons_of_pos (by simpa using collects)]
      obtain ⟨outcome, alike⟩ := alike.handle collects
      obtain ⟨transactions, alike⟩ := ih alike
      refine ⟨?_, alike⟩
      rw [Console.transactions, Console.transactions, outcome, transactions]

/-- The live settings are those that the stored block yields. -/
def Settled (c : Console) : Prop :=
  c.endpoint.settings = Settings.effective c.endpoint.store.block

/-- A console is settled at power-up if its store can be loaded, even if it cannot be repaired. -/
lemma settled_boot (version : Version) {store : RamStore} (loads : store.failLoads = false) :
    (boot version store).Settled ∧
      (boot version store).endpoint.settings = Settings.effective store.block ∧
      (boot version store).endpoint.store.failLoads = false := by
  unfold Settled boot
  rw [Settings.restore_ram loads]
  cases contents : Settings.Contents.ofBlock store.block with
  | configured s =>
    have view : Settings.effective store.block = s := by rw [Settings.effective, contents]
    exact ⟨view.symm, view.symm, loads⟩
  | unconfigured | corrupt =>
    have view : Settings.effective store.block = .factory := by rw [Settings.effective, contents]
    cases store.failWrites with
    | true => exact ⟨view.symm, view.symm, loads⟩
    | false => exact ⟨(Settings.effective_encode _).symm, view.symm, loads⟩

/-- Requests keep a console settled: what becomes live has been stored. -/
lemma Settled.poll {c : Console} (settled : c.Settled) (now : UInt32) : (c.poll now).2.Settled := by
  have polled := c.polled now
  generalize c.poll now = r at polled ⊢
  obtain ⟨transaction, s, e⟩ := r
  cases polled with
  | dry => exact settled
  | @answer _ _ request =>
    simp only [Settled, Endpoint.serve_ram]
    have before : Settings.effective c.endpoint.memory.block = c.endpoint.memory.settings :=
      settled.symm
    exact (Memory.effective_after before _).symm

lemma Settled.run {c : Console} (settled : c.Settled) (es : List Event) : (c.run es).Settled := by
  induction es generalizing c with
  | nil => exact settled
  | cons e es ih =>
    apply ih
    cases e with
    | poll now => exact settled.poll now
    | receive | collect | restart | failWrites => exact settled

/-- No event makes the store fail to load. -/
lemma failLoads_run (c : Console) (es : List Event) :
    (c.run es).endpoint.store.failLoads = c.endpoint.store.failLoads := by
  induction es generalizing c with
  | nil => rfl
  | cons e es ih =>
    refine (ih (c.handle e)).trans ?_
    cases e with
    | poll now =>
      have polled := c.polled now
      show (c.poll now).2.endpoint.store.failLoads = _
      generalize c.poll now = r at polled ⊢
      obtain ⟨transaction, s, e⟩ := r
      cases polled with
      | dry => rfl
      | answer => rw [Endpoint.serve_ram]
    | receive | collect | restart | failWrites => rfl

/-- What a poll with a given answer does to the live settings, to the store and to the answers. -/
inductive Effect (c c' : Console) : Option Transaction → Prop where
  /-- What the request is to install on the live settings is live and stored, by one write. -/
  | written {used w decoder} :
    c.waiting = used ++ c'.waiting → c.session.decoder.Completes used (.write w) decoder →
    c'.endpoint.settings = w.installed c.endpoint.settings →
    Settings.effective c'.endpoint.store.block = w.installed c.endpoint.settings →
    c'.endpoint.store.writes = c.endpoint.store.writes + 1 →
    Effect c c' (some .written)
  /-- The answer tells the live settings, if it can be sent. -/
  | read (reply : Vector UInt8 readReplyLength) :
    c'.endpoint.memory = c.endpoint.memory →
    ReadReply.decode? reply = some ⟨c.endpoint.settings.mode, c.endpoint.settings.deadzone,
      c.endpoint.settings.travel⟩ →
    (c'.outbox = c.outbox ++
      if c.outbox.length + readReplyLength ≤ loopbackLength then reply.toList else []) →
    Effect c c' (some .read)
  | writeFailed :
    c'.endpoint.memory = c.endpoint.memory →
    Effect c c' (some .writeFailed)
  | unfinished :
    c'.endpoint.memory = c.endpoint.memory →
    Effect c c' none

lemma poll_effect (c : Console) (now : UInt32) : c.Effect (c.poll now).2 (c.poll now).1 := by
  have polled := c.polled now
  generalize c.poll now = r at polled ⊢
  obtain ⟨transaction, s, e⟩ := r
  cases polled with
  | dry => exact .unfinished rfl
  | @answer used _ request _ split completes =>
    rw [Endpoint.serve_ram]
    cases request with
    | read =>
      exact .read (ReadReply.ofSettings c.endpoint.settings).encode rfl (ReadReply.decode?_encode _)
        (Fifo.entries_append?_getD _ _)
    | write w =>
      cases failing : c.endpoint.store.failWrites with
      | true => exact .writeFailed rfl
      | false => exact .written split completes rfl (Settings.effective_encode _) rfl

/-- In every run the live settings are those that the stored block yields, and a reboot finds them
again. A poll that ends a WRITE makes it live and stores it with one write; other polls change
neither the settings nor the store, and the answer to a READ tells the live settings. None of this
depends on when the answers are collected, and so on whether they can be sent. -/
theorem live_settings_stored (version : Version) (store : RamStore) (loads : store.failLoads = false)
    (es : List Event) :
    let c := (boot version store).run es
    c.endpoint.settings = Settings.effective c.endpoint.store.block ∧
    (∀ version fail, (boot version { c.endpoint.store with failWrites := fail }).endpoint.settings =
      c.endpoint.settings) ∧
    (∀ now, c.Effect (c.poll now).2 (c.poll now).1) ∧
    ∀ es', es'.filter (· ≠ .collect) = es.filter (· ≠ .collect) →
      (boot version store).transactions es' = (boot version store).transactions es ∧
      ((boot version store).run es').endpoint.memory = c.endpoint.memory := by
  intro c
  obtain ⟨start, -, booted⟩ := settled_boot version loads
  have settled : c.Settled := start.run es
  refine ⟨settled, fun version' fail => ?_, c.poll_effect, fun es' same => ?_⟩
  · -- the block survives the reboot, and so does what it yields
    have loads' : c.endpoint.store.failLoads = false := by
      rw [failLoads_run, booted]
    have rebooted := settled_boot version'
      (show { c.endpoint.store with failWrites := fail }.failLoads = false from loads')
    exact rebooted.2.1.trans settled.symm
  · obtain ⟨transactions, alike⟩ := (Alike.refl (boot version store)).run_filter es
    obtain ⟨transactions', alike'⟩ := (Alike.refl (boot version store)).run_filter es'
    rw [same] at transactions' alike'
    exact ⟨transactions'.symm.trans transactions, (alike.trans alike'.symm).memory_eq⟩

/-- A store that cannot be repaired at power-up refuses a WRITE, and then grants it: its mode, deadzone
and travel and the planes of its coefficients are live and stored. -/
theorem live_settings_stored_repair :
    let store : RamStore := { RamStore.holding Settings.erasedBlock with failWrites := true }
    let write : List UInt8 :=
      [1, 0, 9, 1, 2, 3, 4, 0, 0, 0, 5, 0, 0, 0, 6, 255, 255, 255, 254]
    let refused := (boot .mixer store).run [.receive write, .poll 3]
    let granted := (boot .mixer store).run
      [.receive write, .poll 3, .failWrites false, .receive write]
    let written := (granted.poll 4).2
    store.failLoads = false ∧ refused.endpoint.settings = .factory ∧
      Settings.effective refused.endpoint.store.block = .factory ∧
      granted.Effect written (some .written) ∧
      written.endpoint.settings = ⟨.delta, 9, ⟨⟨1, 2⟩, ⟨3, 4⟩⟩, ⟨⟨5, -2, -2⟩, ⟨6, -2, 2⟩⟩⟩ ∧
      Settings.effective written.endpoint.store.block =
        ⟨.delta, 9, ⟨⟨1, 2⟩, ⟨3, 4⟩⟩, ⟨⟨5, -2, -2⟩, ⟨6, -2, 2⟩⟩⟩ := by
  intro store write refused granted written
  have loads : store.failLoads = false := rfl
  have kept : refused.endpoint.settings = .factory := by decide +kernel
  have live : written.endpoint.settings =
      ⟨.delta, 9, ⟨⟨1, 2⟩, ⟨3, 4⟩⟩, ⟨⟨5, -2, -2⟩, ⟨6, -2, 2⟩⟩⟩ := by decide +kernel
  refine ⟨loads, kept, ?_, ?_, live, ?_⟩
  · exact (live_settings_stored .mixer store loads _).1.symm.trans kept
  · have answer : (granted.poll 4).1 = some .written := by decide +kernel
    rw [← answer]
    exact (live_settings_stored .mixer store loads _).2.2.1 4
  · exact (live_settings_stored .mixer store loads
      [.receive write, .poll 3, .failWrites false, .receive write, .poll 4]).1.symm.trans live

end Console

end SpeedController.Link
