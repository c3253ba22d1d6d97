import Mathlib.Tactic.Lemma
import SpeedController.Board.Flash
import SpeedController.Device.Basic

/-!
# Stores that fail

A store in flash memory first erases the sector of the settings and then programs the new block. As
long as it does not get as far as to erase the sector, the old block is still there; after that
nothing is left but the bytes of the new block that were programmed (`load_store`). So a store that
fails keeps the old block if it fails early, and otherwise by accident only
(`failed_store_keeps_iff`): the old block can be lost (`failed_store_loses`), and a WRITE that was
refused then leaves other settings to the next power-up than to the running device.
-/

namespace SpeedController

open Link (Endpoint Loopback Transport Version WriteRequest refusedByte)
open Settings (Block Contents Store blockLength effective erasedByte)

namespace Board.Flash

variable {f g : Flash} {block : Block} {sector : Nat}

/-- Whether a store gets as far as to erase the sector. -/
def erases (f : Flash) : Bool := (f.unlock.erase settingsSector).1

/-- A block of which no more than the first bytes were programmed. -/
def partly (block : Block) (programmed : Nat) : Block :=
  Vector.ofFn fun i => if i < programmed then block[i] else erasedByte

lemma unlock_memory (f : Flash) : f.unlock.memory = f.memory := by
  unfold unlock
  split <;> rfl

lemma unlock_faults (f : Flash) : f.unlock.faults = f.faults := by
  unfold unlock
  split <;> rfl

/-- An erase that fails leaves the memory as it is. -/
lemma memory_of_erase_fails (failed : f.erase sector = (false, g)) : g.memory = f.memory := by
  unfold erase at failed
  split at failed
  · cases failed
    rfl
  · dsimp only at failed
    split at failed
    · cases failed
      rfl
    · cases failed

/-- An erase that succeeds sets all bits of the sector, and the controller stays unlocked. -/
lemma erased_of_erase (erased : f.erase sector = (true, g)) :
    g.locked = false ∧ g.faults = f.faults ∧
      ∀ a, sectorStart sector ≤ a → a < sectorStart sector + sectorSize sector →
        g.memory a = erasedByte := by
  unfold erase at erased
  split at erased
  · cases erased
  · next unlocked =>
    dsimp only at erased
    split at erased
    · cases erased
    · cases erased
      exact ⟨Bool.eq_false_iff.2 unlocked, rfl, fun a low high => if_pos ⟨low, high⟩⟩

lemma programmed_le (f : Flash) (length : Nat) : f.programmed length ≤ length := by
  unfold programmed
  split
  · exact Nat.le_refl length
  · exact Nat.min_le_right _ length

lemma and_erasedByte (b : UInt8) : erasedByte &&& b = b := by
  rw [UInt8.and_comm]
  exact UInt8.and_neg_one

/-- What is programmed over erased bytes can be read there. -/
lemma load_program (unlocked : g.locked = false)
    (erased : ∀ i < blockLength, g.memory (settingsAddress + i) = erasedByte) (block : Block) :
    (g.program settingsAddress block.toList).2.load = partly block (g.programmed blockLength) := by
  have length : (block.toList.take (g.programmed blockLength)).length = g.programmed blockLength := by
    rw [List.length_take, Vector.length_toList]
    exact Nat.min_eq_left (g.programmed_le blockLength)
  apply Vector.ext
  intro i bound
  simp only [load, partly, program, unlocked, Bool.false_eq_true, if_false, Vector.getElem_ofFn,
    Vector.length_toList, length, Nat.le_add_right, true_and, Nat.add_lt_add_iff_left,
    Nat.add_sub_cancel_left, erased i bound, and_erasedByte]
  split
  · next written => simp [List.getD, written, bound]
  · rfl

/-- A store that does not get as far as to erase the sector leaves the block; one that does leaves
what it could program. It succeeds if all of that worked. -/
lemma load_store (f : Flash) (block : Block) :
    (f.store block).1 = (f.erases && !f.programFails blockLength) ∧
      (f.store block).2.load =
        if f.erases then partly block (f.programmed blockLength) else f.load := by
  unfold erases store
  cases reached : f.unlock.erase settingsSector with
  | mk ok g =>
    cases ok with
    | false =>
      have memory := (memory_of_erase_fails reached).trans f.unlock_memory
      refine ⟨rfl, ?_⟩
      show g.load = f.load
      rw [load, memory, load]
    | true =>
      obtain ⟨unlocked, faults, erased⟩ := erased_of_erase reached
      rw [unlock_faults] at faults
      have fits : blockLength ≤ sectorSize settingsSector := by decide
      have programmed : g.programmed blockLength = f.programmed blockLength := by
        rw [programmed, faults, programmed]
      have fails : g.programFails blockLength = f.programFails blockLength := by
        rw [programFails, faults, programFails]
      have loaded := load_program unlocked (fun i bound => erased _ (Nat.le_add_right _ i)
        (Nat.add_lt_add_left (Nat.lt_of_lt_of_le bound fits) _)) block
      rw [programmed] at loaded
      refine ⟨?_, loaded⟩
      show (g.program settingsAddress block.toList).1 = !f.programFails blockLength
      rw [program, if_neg (by simp [unlocked]), Vector.length_toList, fails]

/-- With less than two bytes of a block there are no settings in it. -/
lemma effective_partly {programmed : Nat} (few : programmed < 2) (block : Block) :
    effective (partly block programmed) = .factory := by
  have mode : (partly block programmed)[1] = erasedByte := by
    rw [partly, Vector.getElem_ofFn]
    exact if_neg (Nat.not_lt.2 (Nat.le_of_lt_succ few))
  have unknown : ControlMode.ofCode? erasedByte = none := rfl
  unfold effective Contents.ofBlock
  rw [mode, unknown]
  split
  · next configured =>
    split at configured <;> cases configured
  all_goals rfl

lemma partly_whole (block : Block) : partly block blockLength = block := by
  apply Vector.ext
  intro i bound
  rw [partly, Vector.getElem_ofFn]
  exact if_pos bound

end Board.Flash

/-- A WRITE that cannot be stored is refused, and the settings stay. -/
lemma Link.Endpoint.serve_of_store_fails {T S : Type} [Transport T] [Store S] {e : Endpoint T S}
    {w : WriteRequest}
    (failed : (Store.store e.store (w.applyTo e.settings).encode).1 = false) :
    e.serve (.write w) = (.writeFailed,
      { e with store := (Store.store e.store (w.applyTo e.settings).encode).2 }.send
        [refusedByte]) := by
  unfold serve Settings.save
  dsimp only
  generalize Store.store e.store (w.applyTo e.settings).encode = stored at failed
  obtain ⟨ok, store⟩ := stored
  cases failed
  rfl

/-- A device runs on what its store holds when it powers up. -/
lemma Device.settings_boot {T S : Type} [Transport T] [Store S] {store : S} {block : Block}
    (loads : Store.load store = some block) (version : Version) (transport : T) :
    (boot version transport store).2.status.settings = effective block := by
  unfold boot Settings.restore effective
  rw [loads]
  dsimp only
  cases Contents.ofBlock block with
  | configured s => rfl
  | unconfigured | corrupt =>
    obtain ⟨saved, store⟩ := Settings.save store .factory
    cases saved <;> rfl

namespace Board.Flash

/-- A store that fails keeps the old block just if it does not get as far as to erase the sector, or
if what it could program looks like the old block. Otherwise the bytes that it could program stay,
over an erased sector: with less than two of them the device falls back on the factory settings, and
with all of them the new block is there. A WRITE that fails so is refused and changes no live
settings, but at the next power-up the device runs on what has stayed. -/
theorem failed_store_keeps_iff {T : Type} [Transport T] {f : Flash} {block : Block}
    (failed : (f.store block).1 = false) :
    let f' := (f.store block).2
    let remains := partly block (f.programmed blockLength)
    f'.load = (if f.erases then remains else f.load) ∧
      (f'.load = f.load ↔ f.erases = false ∨ remains = f.load) ∧
      (f.programmed blockLength < 2 → effective remains = .factory) ∧
      (f.programmed blockLength = blockLength → remains = block) ∧
      ∀ (e : Endpoint T Flash) (w : WriteRequest),
        e.store = f → (w.applyTo e.settings).encode = block →
        ∃ e', e.serve (.write w) = (.writeFailed, e') ∧ e'.settings = e.settings ∧
          ∀ (version : Version) (transport : T),
            (Device.boot version transport e'.store).2.status.settings = effective f'.load := by
  intro f' remains
  have load : f'.load = if f.erases then remains else f.load := (load_store f block).2
  refine ⟨load, ?_, fun few => effective_partly few block, fun whole => ?_, ?_⟩
  · rw [load]
    cases f.erases <;> simp
  · rw [show remains = partly block blockLength from congrArg (partly block) whole, partly_whole]
  · intro e w holds encoded
    subst holds encoded
    exact ⟨_, Link.Endpoint.serve_of_store_fails failed, rfl, Device.settings_boot rfl⟩

/-- The flash memory of a device that has been given a block. -/
def keeping (block : Block) : Flash :=
  holding fun a => if a < settingsAddress then erasedByte
    else block.toList.getD (a - settingsAddress) erasedByte

/-- The program stops after four bytes. The WRITE is refused, and the device goes on with its old
settings; at the next power-up it has neither these nor the new ones, nor those of the factory. -/
theorem failed_store_keeps_iff_torn :
    let old : Settings := { Settings.factory with deadzone := 9 }
    let w : WriteRequest := ⟨.delta, 7, ⟨⟨10, 240⟩, ⟨20, 230⟩⟩, none⟩
    let f : Flash := { keeping old.encode with faults := ⟨false, false, some 4⟩ }
    (f.store (w.applyTo old).encode).1 = false ∧
      (f.store (w.applyTo old).encode).2.load ≠ f.load ∧
      ∃ e', Endpoint.serve ⟨Loopback.empty, f, old⟩ (.write w) = (.writeFailed, e') ∧
        e'.settings = old ∧
        ∀ (version : Version) (transport : Loopback),
          (Device.boot version transport e'.store).2.status.settings =
            ⟨.delta, 7, ⟨⟨10, 255⟩, ⟨255, 255⟩⟩, ⟨⟨-1, -1, -1⟩, ⟨-1, -1, -1⟩⟩⟩ := by
  intro old w f
  have failed : (f.store (w.applyTo old).encode).1 = false := by decide +kernel
  obtain ⟨load, kept, -, -, served⟩ := failed_store_keeps_iff (T := Loopback) failed
  obtain ⟨e', refused, live, boots⟩ := served ⟨Loopback.empty, f, old⟩ w rfl rfl
  refine ⟨failed, fun same => absurd (kept.1 same) (by decide +kernel), e', refused, live, ?_⟩
  intro version transport
  rw [boots, load]
  decide +kernel

/-- It is not the case that a store that fails loses nothing: it may fail after it has erased the
old block. -/
theorem failed_store_loses :
    ¬∀ (f : Flash) (block : Block), (f.store block).1 = false →
      (f.store block).2.load = f.load := by
  intro keeps
  let f : Flash := { keeping Settings.factory.encode with faults := ⟨false, false, some 0⟩ }
  have failed : (f.store Settings.factory.encode).1 = false := by decide +kernel
  exact absurd (keeps f _ failed) (by decide +kernel)

end Board.Flash

end SpeedController
