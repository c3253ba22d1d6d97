import Mathlib.Tactic.Lemma
import SpeedController.Settings.Storage

/-!
# Recall of the settings

Settings that were stored are read back as they were (`effective_encode`): the layout keeps every
field, and `Word` keeps every coefficient. `save_ram` and `restore_ram` say what a store in memory
does when settings are saved and when they are restored at boot.
-/

namespace SpeedController.Settings

lemma wordAt_encode (s : Settings) :
    (wordAt s.encode 7 = s.planes.left.r ∧ wordAt s.encode 11 = s.planes.left.s ∧
      wordAt s.encode 15 = s.planes.left.t) ∧
    wordAt s.encode 19 = s.planes.right.r ∧ wordAt s.encode 23 = s.planes.right.s ∧
      wordAt s.encode 27 = s.planes.right.t := by
  refine ⟨⟨?_, ?_, ?_⟩, ?_, ?_, ?_⟩
  all_goals exact Word.ofBytes_byte _

/-- A block of settings holds these settings. -/
lemma contents_encode (s : Settings) : Contents.ofBlock s.encode = .configured s := by
  have mark : s.encode[0] = configuredMark := rfl
  have mode : s.encode[1] = s.mode.code := rfl
  obtain ⟨⟨r₁, s₁, t₁⟩, r₂, s₂, t₂⟩ := wordAt_encode s
  unfold Contents.ofBlock
  rw [if_neg (by simp [mark]), mode, ControlMode.ofCode?_code]
  simp only [r₁, s₁, t₁, r₂, s₂, t₂]
  rfl

/-- A device with a block of settings runs on these settings. -/
lemma effective_encode (s : Settings) : effective s.encode = s := by
  rw [effective, contents_encode]

lemma save_ram (r : RamStore) (s : Settings) :
    save r s =
      if r.failWrites then (.error .storage, r)
      else (.ok (), { r with block := s.encode, writes := r.writes + 1 }) := by
  unfold save
  cases failing : r.failWrites with
  | true =>
    have refused : Store.store r s.encode = (false, r) := if_pos failing
    rw [refused]
    rfl
  | false =>
    have stored : Store.store r s.encode =
        (true, { r with block := s.encode, writes := r.writes + 1 }) := if_neg (by simp [failing])
    rw [stored, failing]
    rfl

lemma restore_ram {r : RamStore} (loads : r.failLoads = false) :
    restore r =
      match Contents.ofBlock r.block with
      | .configured s => (.ok s, r)
      | .unconfigured | .corrupt =>
        if r.failWrites then (.error .storage, r)
        else (.ok factory, { r with block := factory.encode, writes := r.writes + 1 }) := by
  have loaded : Store.load r = some r.block := if_neg (by simp [loads])
  unfold restore
  rw [loaded]
  dsimp only
  cases Contents.ofBlock r.block with
  | configured s => rfl
  | unconfigured | corrupt =>
    rw [save_ram]
    cases r.failWrites <;> rfl

/-- Settings that are in the store are restored if they can be loaded, and kept otherwise. -/
lemma restore_of_configured {r : RamStore} {s : Settings}
    (holds : Contents.ofBlock r.block = .configured s) :
    restore r = (if r.failLoads then .error .storage else .ok s, r) := by
  cases fails : r.failLoads with
  | true =>
    have refused : Store.load r = none := if_pos fails
    rw [restore, refused]
    rfl
  | false =>
    rw [restore_ram fails, holds]
    rfl

end SpeedController.Settings
