import SpeedController.Device.Bench
import SpeedController.Proofs.Device.Hosting

/-!
# Power cycles

A WRITE of the basic version brings no plane coefficients and leaves the planes of the live settings
as they are (`Polled.planes`). The live planes are those in the store, unless the settings could not
be loaded at boot: then the device runs on the factory settings, and the next WRITE that is stored
takes the factory planes along. `Kept` couples the live planes to the stored ones, every occasion
carries it on (`Kept.undergo`), and `Overwrites` tells whether stored planes were lost on the way.
The main statement is `stored_planes`.
-/

namespace SpeedController

open Link Mixing Power Receiver
open Settings (Contents RamStore Store)

namespace Link

/-- A WRITE without coefficients leaves the planes alone. -/
lemma WriteRequest.planes_of_basic {payload : List UInt8} {w : WriteRequest}
    (spelled : ofPayload? .basic payload = some w) (s : Settings) :
    (w.installed s).planes = s.planes := by
  unfold ofPayload? at spelled
  split at spelled
  · cases spelled
    rfl
  · contradiction
  · cases spelled

/-- New settings were stored, with the planes of the settings that were live. -/
structure Memory.Rewritten (m m' : Memory) : Prop where
  planes : m'.settings.planes = m.settings.planes
  block : m'.block = m'.settings.encode
  writes : m'.writes = m.writes + 1

/-- A poll of a session of the basic version stores settings with the same planes, or none. -/
lemma Session.Polled.planes {s s' : Session} {e e' : Endpoint Loopback RamStore} {now : UInt32}
    {t : Option Transaction} (polled : s.Polled e now t s' e') (basic : s.decoder.version = .basic) :
    e'.memory = e.memory ∨ e.memory.Rewritten e'.memory := by
  cases polled with
  | dry => exact .inl rfl
  | @answer _ incoming request _ _ completes =>
    rw [Endpoint.serve_ram]
    cases request with
    | read => exact .inl rfl
    | write w =>
      obtain ⟨payload, spelled⟩ := completes.spelled
      rw [basic] at spelled
      cases failing : e.store.failWrites with
      | true => exact .inl (by simp [Endpoint.memory, Memory.after])
      | false =>
        right
        simp only [Endpoint.memory, Memory.after]
        exact ⟨WriteRequest.planes_of_basic spelled _, rfl, rfl⟩

end Link

namespace Device

/-- An event stores settings with the live planes, or none. -/
lemma memory_handle {d : BenchDevice} (basic : d.supervisor.session.decoder.version = .basic)
    (e : Event) :
    (d.handle e).endpoint.memory = d.endpoint.memory ∨
      d.endpoint.memory.Rewritten (d.handle e).endpoint.memory := by
  cases between : e.isStep with
  | false => exact .inl (d.passed_handle between).memory
  | true =>
    cases e with
    | step now =>
      have transition := step_transition d now
      rw [handle]
      generalize (d.step now).1 = p at transition
      generalize (d.step now).2 = d' at transition ⊢
      cases transition with
      | ask | greet | idle | withdraw | wait | launch | drive | brake | halt => exact .inl rfl
      | answer _ served | listen _ served =>
        have polled := d.supervisor.session.poll_polled d.endpoint now
        rw [show d.supervisor.session.poll d.endpoint now = _ from served] at polled
        exact polled.planes basic
    | edge | watchdog | drain | pulse | update | overflow | compare | receive | collect
    | failWrites | failLoads => cases between

end Device

/-- Something that happens to a bench: an event of its device, or the power fails and comes back. -/
inductive Occasion where
  | event (e : Event)
  | reboot
  deriving DecidableEq, Repr

namespace Bench

/-- The bench after an occasion. -/
def undergo (b : Bench) : Occasion → Bench
  | .event e => { b with device := b.device.handle e }
  | .reboot => b.reboot

/-- The bench after a sequence of occasions. -/
def undergoAll (b : Bench) (os : List Occasion) : Bench := os.foldl undergo b

/-- Settings are stored on an occasion by a device that could not load its own. -/
def Clobbers (b : Bench) (o : Occasion) : Prop :=
  b.booted.isOk = false ∧ (b.undergo o).device.store.writes ≠ b.device.store.writes

/-- Settings are stored in a sequence of occasions by a device that could not load its own. -/
def Overwrites (b : Bench) : List Occasion → Prop
  | [] => False
  | o :: os => b.Clobbers o ∨ (b.undergo o).Overwrites os

instance (b : Bench) (o : Occasion) : Decidable (b.Clobbers o) :=
  inferInstanceAs (Decidable (_ ∧ _))

instance decidableOverwrites (b : Bench) : DecidablePred b.Overwrites
  | [] => .isFalse id
  | o :: os =>
    have := decidableOverwrites (b.undergo o) os
    inferInstanceAs (Decidable (_ ∨ _))

/-- A bench of the basic version has these planes in its store, and so do the live settings, unless
they could not be loaded. -/
structure Kept (b : Bench) (planes : Sides Plane) : Prop where
  version : b.version = .basic
  decoder : b.device.supervisor.session.decoder.version = .basic
  stored : ∃ s, Contents.ofBlock b.device.store.block = .configured s ∧ s.planes = planes
  live : b.device.status.settings.planes = if b.booted.isOk then planes else Settings.factory.planes

variable {b : Bench} {planes : Sides Plane}

/-- A power-up finds what is in the store and leaves it there. -/
lemma kept_boot {store : RamStore} {s : Settings}
    (holds : Contents.ofBlock store.block = .configured s) :
    (boot .basic store).Kept s.planes ∧ (boot .basic store).device.store = store := by
  have restored := Settings.restore_of_configured holds
  unfold boot Device.boot
  rw [restored]
  refine ⟨⟨rfl, rfl, ⟨s, holds, rfl⟩, ?_⟩, rfl⟩
  cases store.failLoads <;> rfl

/-- A power cycle clobbers nothing. -/
lemma Kept.reboot (h : b.Kept planes) : b.reboot.Kept planes ∧ ¬b.Clobbers .reboot := by
  obtain ⟨s, holds, rfl⟩ := h.stored
  obtain ⟨kept, store⟩ := kept_boot holds
  rw [← h.version] at kept store
  exact ⟨kept, fun clobbers => clobbers.2 (congrArg RamStore.writes store)⟩

/-- When settings are stored, the live planes are in the store from then on. -/
lemma Kept.rewrite (h : b.Kept planes) {e : Event}
    (rewritten : b.device.endpoint.memory.Rewritten (b.device.handle e).endpoint.memory) :
    (b.undergo (.event e)).Kept b.device.status.settings.planes where
  version := h.version
  decoder := (b.device.moves_handle e).version.trans h.decoder
  stored := by
    refine ⟨(b.device.handle e).status.settings, ?_, rewritten.planes⟩
    rw [show (b.undergo (.event e)).device.store.block = _ from rewritten.block]
    exact Settings.contents_encode _
  live := by
    refine rewritten.planes.trans ?_
    show _ = if b.booted.isOk then _ else _
    cases booted : b.booted.isOk with
    | true => rfl
    | false =>
      have live := h.live
      rwa [booted] at live

lemma Kept.event (h : b.Kept planes) (e : Event) :
    (b.undergo (.event e)).Kept
      (if b.Clobbers (.event e) then Settings.factory.planes else planes) := by
  rcases Device.memory_handle h.decoder e with same | rewritten
  · have calm : ¬b.Clobbers (.event e) := fun clobbers => clobbers.2 (congrArg Memory.writes same)
    rw [if_neg calm]
    refine ⟨h.version, (b.device.moves_handle e).version.trans h.decoder, ?_, ?_⟩
    · rw [show (b.undergo (.event e)).device.store.block = _ from congrArg Memory.block same]
      exact h.stored
    · rw [show (b.undergo (.event e)).device.status.settings = _ from congrArg Memory.settings same]
      exact h.live
  · -- the live planes are the stored ones, unless those could not be loaded
    have kept := h.rewrite rewritten
    have writes : (b.undergo (.event e)).device.store.writes ≠ b.device.store.writes := by
      rw [show (b.undergo (.event e)).device.store.writes = _ from rewritten.writes]
      exact Nat.succ_ne_self _
    rw [h.live] at kept
    cases booted : b.booted.isOk with
    | true => simpa [Clobbers, booted] using kept
    | false => simpa [Clobbers, booted, writes] using kept

lemma Kept.undergo (h : b.Kept planes) (o : Occasion) :
    (b.undergo o).Kept (if b.Clobbers o then Settings.factory.planes else planes) := by
  cases o with
  | event e => exact h.event e
  | reboot =>
    obtain ⟨kept, calm⟩ := h.reboot
    rw [if_neg calm]
    exact kept

lemma Kept.undergoAll (h : b.Kept planes) (os : List Occasion) :
    (b.undergoAll os).Kept (if b.Overwrites os then Settings.factory.planes else planes) := by
  induction os generalizing b planes with
  | nil => exact h
  | cons o os ih =>
    have rest := ih (h.undergo o)
    show ((b.undergo o).undergoAll os).Kept _
    by_cases clobbers : b.Clobbers o
    · simpa [Overwrites, clobbers] using rest
    · simpa [Overwrites, clobbers] using rest

/-- Let a device of the basic version find settings in its store. Whatever happens to it, and however
often the power fails or the store does, the store goes on to hold settings. Their planes are those
of the beginning until a device that could not load its settings stores new ones, and the planes of
the factory settings from then on. -/
theorem stored_planes {store : RamStore} {s : Settings}
    (holds : Contents.ofBlock store.block = .configured s) (os : List Occasion) :
    let b := boot .basic store
    ∃ s', Contents.ofBlock (b.undergoAll os).device.store.block = .configured s' ∧
      s'.planes = if b.Overwrites os then Settings.factory.planes else s.planes :=
  ((kept_boot holds).1.undergoAll os).stored

/-- The settings cannot be loaded and new ones are refused; after a power cycle they can, and new ones
are stored with the planes of the old ones. -/
theorem stored_planes_refusal :
    let s : Settings := { Settings.factory with planes := ⟨⟨1, 2, 3⟩, ⟨4, 5, 6⟩⟩ }
    let store : RamStore := ⟨s.encode, 0, true, true⟩
    let write : List Occasion :=
      [.event (.receive [1, 2, 7, 10, 240, 20, 230]), .event (.step 0), .event (.step 0)]
    let os := write ++ [.event (.failWrites false), .event (.failLoads false), .reboot] ++ write
    Contents.ofBlock store.block = .configured s ∧
      ((boot .basic store).undergoAll os).device.store.writes = 1 ∧
      ∃ s', Contents.ofBlock ((boot .basic store).undergoAll os).device.store.block = .configured s' ∧
        s'.planes = s.planes := by
  intro s store write os
  have holds : Contents.ofBlock store.block = .configured s := Settings.contents_encode s
  have calm : ¬(boot .basic store).Overwrites os := by decide +kernel
  obtain ⟨s', holds', planes⟩ := stored_planes holds os
  rw [if_neg calm] at planes
  exact ⟨holds, by decide +kernel, s', holds', planes⟩

/-- It is not the case that the stored planes survive: settings that could not be loaded at one boot
are overwritten by a WRITE, planes included. -/
theorem stored_planes_lost :
    ¬∀ (store : RamStore) (s : Settings), Contents.ofBlock store.block = .configured s →
      ∀ os : List Occasion, ∃ s',
        Contents.ofBlock ((boot .basic store).undergoAll os).device.store.block = .configured s' ∧
          s'.planes = s.planes := by
  intro survive
  let s : Settings := { Settings.factory with planes := ⟨⟨1, 2, 3⟩, ⟨4, 5, 6⟩⟩ }
  obtain ⟨s', holds', planes⟩ := survive ⟨s.encode, 0, false, true⟩ s (Settings.contents_encode s)
    [.event (.receive [1, 2, 7, 10, 240, 20, 230]), .event (.step 0), .event (.step 0)]
  have lost : ((boot .basic ⟨s.encode, 0, false, true⟩).undergoAll
      [.event (.receive [1, 2, 7, 10, 240, 20, 230]), .event (.step 0),
        .event (.step 0)]).device.store.block =
      Settings.encode ⟨.tank, 7, ⟨⟨10, 240⟩, ⟨20, 230⟩⟩, Settings.factory.planes⟩ := by decide +kernel
  rw [lost, Settings.contents_encode] at holds'
  cases holds'
  exact absurd planes (by decide)

end Bench

end SpeedController
