import SpeedController.Proofs.Settings.Recall

/-!
# Repair at boot

What a boot can come to is listed once (`Boot`): it reads the settings, it repairs a store that
holds none, or it fails and touches nothing. In every case the store is as it was, or else it was
broken and now holds the factory settings (`Mended`); these are not broken, so that no number of
boots repairs a store twice (`Mended.trans`). The main statement is `boot_repairs_once`.
-/

namespace SpeedController.Settings

/-- The block is blank or corrupt. -/
def Broken (b : Block) : Prop := ∀ s, Contents.ofBlock b ≠ .configured s

/-- Which accesses to a store fail. -/
structure Failures where
  loads : Bool
  writes : Bool
  deriving DecidableEq, Repr

namespace RamStore

variable {r r' r'' : RamStore} {s : Settings} {restored : Except Error Settings}

/-- The store, some accesses to which fail from now on. -/
def under (r : RamStore) (f : Failures) : RamStore :=
  { r with failLoads := f.loads, failWrites := f.writes }

/-- The store after a boot under each of some failures. -/
def afterBoots (r : RamStore) (fs : List Failures) : RamStore :=
  fs.foldl (fun r f => (restore (r.under f)).2) r

/-- What a boot can come to. -/
inductive Boot (r : RamStore) : Except Error Settings → RamStore → Prop where
  | read {s : Settings} (loads : r.failLoads = false)
      (holds : Contents.ofBlock r.block = .configured s) : r.Boot (.ok s) r
  | repair (loads : r.failLoads = false) (broken : Broken r.block) (writes : r.failWrites = false) :
      r.Boot (.ok factory) { r with block := factory.encode, writes := r.writes + 1 }
  | blind (fails : r.failLoads = true) : r.Boot (.error .storage) r
  | stuck (loads : r.failLoads = false) (broken : Broken r.block) (fails : r.failWrites = true) :
      r.Boot (.error .storage) r

lemma boot_restore (r : RamStore) : r.Boot (restore r).1 (restore r).2 := by
  cases load : r.failLoads with
  | true =>
    have refused : Store.load r = none := if_pos load
    rw [restore, refused]
    exact .blind load
  | false =>
    rw [restore_ram load]
    cases contents : Contents.ofBlock r.block with
    | configured s => exact .read load contents
    | unconfigured | corrupt =>
      have broken : Broken r.block := by
        intro s
        rw [contents]
        exact Contents.noConfusion
      dsimp only
      split
      · next fails => exact .stuck load broken fails
      · next works => exact .repair load broken (Bool.eq_false_iff.2 works)

/-- The store is as it was, or it was broken and one write has given it the factory settings. -/
inductive Mended (r r' : RamStore) : Prop where
  | kept (block : r'.block = r.block) (writes : r'.writes = r.writes)
  | repaired (broken : Broken r.block) (block : r'.block = factory.encode)
      (writes : r'.writes = r.writes + 1)

lemma Boot.mended (boot : r.Boot restored r') : r.Mended r' := by
  cases boot with
  | read | blind | stuck => exact .kept rfl rfl
  | repair _ broken _ => exact .repaired broken rfl rfl

/-- A store that holds settings is kept. -/
lemma Mended.kept_of_configured (mended : r.Mended r')
    (holds : Contents.ofBlock r.block = .configured s) :
    r'.block = r.block ∧ r'.writes = r.writes := by
  cases mended with
  | kept block writes => exact ⟨block, writes⟩
  | repaired broken => exact absurd holds (broken s)

lemma Mended.trans (first : r.Mended r') (second : r'.Mended r'') : r.Mended r'' := by
  cases first with
  | kept block writes =>
    cases second with
    | kept block' writes' => exact .kept (block'.trans block) (writes'.trans writes)
    | repaired broken' block' writes' =>
      rw [block] at broken'
      rw [writes] at writes'
      exact .repaired broken' block' writes'
  | repaired broken block writes =>
    -- the factory settings are not repaired again
    have holds : Contents.ofBlock r'.block = .configured factory := by
      rw [block]
      exact contents_encode factory
    obtain ⟨block', writes'⟩ := second.kept_of_configured holds
    exact .repaired broken (block'.trans block) (writes'.trans writes)

lemma mended_afterBoots (r : RamStore) (fs : List Failures) : r.Mended (r.afterBoots fs) := by
  induction fs generalizing r with
  | nil => exact .kept rfl rfl
  | cons f fs ih =>
    have faults : r.Mended (r.under f) := .kept rfl rfl
    exact faults.trans ((r.under f).boot_restore.mended.trans (ih _))

/-- A boot that answers settings leaves a store that holds them. -/
lemma Boot.configured (boot : r.Boot (.ok s) r') : Contents.ofBlock r'.block = .configured s := by
  cases boot with
  | read _ holds => exact holds
  | repair => exact contents_encode factory

/-- A boot fails only if the load does, or if there is a repair to make that cannot be written; it
then leaves the store alone. -/
lemma Boot.failed {e : Error} (boot : r.Boot (.error e) r') :
    e = .storage ∧ r' = r ∧ (r.failLoads = true ∨ Broken r.block ∧ r.failWrites = true) := by
  cases boot with
  | blind fails => exact ⟨rfl, rfl, .inl fails⟩
  | stuck _ broken fails => exact ⟨rfl, rfl, .inr ⟨broken, fails⟩⟩

end RamStore

/-- A boot answers the settings in the store and writes nothing; where there are none, and if writes
work, it answers the factory settings and leaves them in the store, in one write. It fails just if
it cannot load, or cannot write what it has to, and then nothing has changed. Once a boot has
answered settings, every later one that can load answers the same and writes nothing, whatever has
failed in between; and however many boots there are, they write once at most, to a broken store
only. -/
theorem boot_repairs_once (r : RamStore) :
    (∀ s, r.failLoads = false → Contents.ofBlock r.block = .configured s →
      restore r = (.ok s, r)) ∧
    (r.failLoads = false → Broken r.block → r.failWrites = false →
      restore r = (.ok factory, { r with block := factory.encode, writes := r.writes + 1 }) ∧
        Contents.ofBlock factory.encode = .configured factory) ∧
    (∀ e, (restore r).1 = .error e → restore r = (.error .storage, r)) ∧
    ((∃ e, (restore r).1 = .error e) ↔
      r.failLoads = true ∨ Broken r.block ∧ r.failWrites = true) ∧
    (∀ s, (restore r).1 = .ok s → ∀ (fs : List Failures) (failWrites : Bool),
      let again := ((restore r).2.afterBoots fs).under ⟨false, failWrites⟩
      restore again = (.ok s, again)) ∧
    ∀ fs, r.Mended (r.afterBoots fs) := by
  have boot := r.boot_restore
  generalize came : restore r = outcome at boot ⊢
  obtain ⟨restored, r'⟩ := outcome
  refine ⟨?_, ?_, ?_, ?_, ?_, r.mended_afterBoots⟩
  · intro s loads holds
    rw [← came, restore_of_configured holds, loads]
    rfl
  · intro loads broken writes
    refine ⟨?_, contents_encode factory⟩
    cases boot with
    | read _ holds => exact absurd holds (broken _)
    | repair => rfl
    | blind fails => cases loads.symm.trans fails
    | stuck _ _ fails => cases writes.symm.trans fails
  · rintro e rfl
    obtain ⟨rfl, rfl, -⟩ := boot.failed
    rfl
  · constructor
    · rintro ⟨e, rfl⟩
      exact boot.failed.2.2
    · intro fails
      cases boot with
      | blind | stuck => exact ⟨_, rfl⟩
      | read loads holds =>
        rcases fails with fails | ⟨broken, -⟩
        · cases loads.symm.trans fails
        · exact absurd holds (broken _)
      | repair loads _ writes =>
        rcases fails with fails | ⟨-, fails⟩
        · cases loads.symm.trans fails
        · cases writes.symm.trans fails
  · rintro s rfl fs failWrites again
    have holds := boot.configured
    have kept := (r'.mended_afterBoots fs).kept_of_configured holds
    rw [← kept.1] at holds
    exact restore_of_configured holds

/-- The mode of the stored settings is garbled. A boot that cannot write fails and leaves it so; the
next one repairs the store, and one more, which could not write, answers the same settings. -/
theorem boot_repairs_once_garbled :
    let garbled : RamStore := ⟨({ factory with deadzone := 9 }).encode.set 1 0x42, 3, true, false⟩
    let mended : RamStore := ⟨factory.encode, 4, false, false⟩
    restore garbled = (.error .storage, garbled) ∧
      restore (garbled.under ⟨false, false⟩) = (.ok factory, mended) ∧
      restore (mended.under ⟨false, true⟩) = (.ok factory, mended.under ⟨false, true⟩) := by
  intro garbled mended
  have corrupt : Contents.ofBlock garbled.block = .corrupt := by decide +kernel
  have broken : Broken garbled.block := by
    intro s
    rw [corrupt]
    exact Contents.noConfusion
  obtain ⟨-, -, fails, failsIff, -⟩ := boot_repairs_once garbled
  obtain ⟨e, failed⟩ := failsIff.2 (.inr ⟨broken, rfl⟩)
  obtain ⟨-, repairs, -, -, again, -⟩ := boot_repairs_once (garbled.under ⟨false, false⟩)
  have repaired := (repairs rfl broken rfl).1
  have later := again factory (congrArg Prod.fst repaired) [] true
  rw [repaired] at later
  exact ⟨fails e failed, repaired, later⟩

end SpeedController.Settings
