import SpeedController.Proofs.Board.Interruption

/-!
# Stores that succeed

What a store in flash memory relies on, and nothing more, is a `LawfulController`: the lock holds, a
sector that was erased has all bits set, and programming that worked has cleared the bits that are
clear in the data. Over every such controller a store that succeeds leaves just its block
(`stored_replace`), whatever the sector held and whatever went wrong before; which calls it makes of
the controller is recorded by a `Tapped` one. The flash memory is such a controller. The main
statement is `store_durable`.
-/

namespace SpeedController.Board

open Settings (Block blockLength erasedByte)

/-- A flash controller, as far as stores are concerned. Erasing and programming tell whether they
worked. -/
class Controller (σ : Type) where
  unlock : σ → σ
  lock : σ → σ
  erase : σ → (sector : Nat) → Bool × σ
  program : σ → (offset : Nat) → List UInt8 → Bool × σ
  locked : σ → Bool
  /-- The byte at an address. -/
  memory : σ → Nat → UInt8

namespace Controller

variable {σ : Type} [Controller σ]

/-- Replace the settings block, and tell whether that worked. -/
def replace (c : σ) (block : Block) : Bool × σ :=
  match erase (unlock c) settingsSector with
  | (false, c) => (false, lock c)
  | (true, c) =>
    let (ok, c) := program c (settingsAddress - flashBase) block.toList
    (ok, lock c)

/-- The settings block in memory. -/
def stored (c : σ) : Block := Vector.ofFn fun i => memory c (settingsAddress + i)

/-- Each of the blocks in turn is stored with success. -/
inductive Stores : σ → List Block → σ → Prop where
  | nil (c : σ) : Stores c [] c
  | cons {c c' c'' : σ} {block : Block} {blocks : List Block}
      (first : replace c block = (true, c')) (later : Stores c' blocks c'') :
      Stores c (block :: blocks) c''

end Controller

open Controller

/-- What the settings store relies on. -/
class LawfulController (σ : Type) [Controller σ] : Prop where
  locked_lock (c : σ) : locked (lock c) = true
  memory_lock (c : σ) : memory (lock c) = memory c
  /-- A sector that was erased has all bits set. -/
  memory_of_erase {c c' : σ} {sector : Nat} (erased : erase c sector = (true, c')) (a : Nat)
    (low : sectorStart sector ≤ a) (high : a < sectorStart sector + sectorSize sector) :
    memory c' a = erasedByte
  /-- Programming that worked has cleared the bits that are clear in the data, and no others. -/
  memory_of_program {c c' : σ} {offset : Nat} {data : List UInt8}
    (programmed : program c offset data = (true, c')) (i : Nat) (inside : i < data.length) :
    memory c' (flashBase + offset + i) = memory c (flashBase + offset + i) &&& data[i]

/-- A call of a controller, and what it answered. -/
inductive Call where
  | unlock
  | lock
  | erase (sector : Nat) (ok : Bool)
  | program (offset : Nat) (data : List UInt8) (ok : Bool)
  deriving DecidableEq, Repr

/-- A controller and the calls made of it, oldest first. -/
structure Tapped (σ : Type) where
  controller : σ
  calls : List Call

section
variable {σ : Type} [Controller σ]

instance : Controller (Tapped σ) where
  unlock t := ⟨unlock t.controller, t.calls ++ [.unlock]⟩
  lock t := ⟨lock t.controller, t.calls ++ [.lock]⟩
  erase t sector :=
    let (ok, c) := erase t.controller sector
    (ok, ⟨c, t.calls ++ [.erase sector ok]⟩)
  program t offset data :=
    let (ok, c) := program t.controller offset data
    (ok, ⟨c, t.calls ++ [.program offset data ok]⟩)
  locked t := locked t.controller
  memory t := memory t.controller

/-- A store unlocks, erases, programs if that has worked, and locks. -/
lemma calls_replace (c : σ) (block : Block) :
    let tapped := replace (Tapped.mk c []) block
    tapped.1 = (replace c block).1 ∧ tapped.2.controller = (replace c block).2 ∧
      (tapped.2.calls = [.unlock, .erase settingsSector false, .lock] ∧ tapped.1 = false ∨
        tapped.2.calls = [.unlock, .erase settingsSector true,
          .program (settingsAddress - flashBase) block.toList tapped.1, .lock]) := by
  simp only [replace, unlock, erase, program, lock]
  obtain ⟨ok, c'⟩ := erase (unlock c) settingsSector
  cases ok with
  | false => exact ⟨rfl, rfl, .inl ⟨rfl, rfl⟩⟩
  | true => exact ⟨rfl, rfl, .inr rfl⟩

/-- A store that succeeds has erased the sector and then programmed the block. -/
lemma replace_inv {c c' : σ} {block : Block} (success : replace c block = (true, c')) :
    ∃ erased programmed, erase (unlock c) settingsSector = (true, erased) ∧
      program erased (settingsAddress - flashBase) block.toList = (true, programmed) ∧
      c' = lock programmed := by
  unfold replace at success
  cases reached : erase (unlock c) settingsSector with
  | mk ok erased =>
    rw [reached] at success
    cases ok with
    | false => cases success
    | true =>
      dsimp only at success
      cases done : program erased (settingsAddress - flashBase) block.toList with
      | mk ok programmed =>
        rw [done] at success
        cases success
        exact ⟨erased, programmed, rfl, done, rfl⟩

variable [LawfulController σ]

lemma locked_replace (c : σ) (block : Block) : locked (replace c block).2 = true := by
  unfold replace
  split <;> exact LawfulController.locked_lock _

/-- A store that succeeds leaves its block. -/
lemma stored_replace {c c' : σ} {block : Block} (success : replace c block = (true, c')) :
    stored c' = block := by
  obtain ⟨erased, programmed, reached, done, rfl⟩ := replace_inv success
  have fits : blockLength ≤ sectorSize settingsSector := by decide
  apply Vector.ext
  intro i bound
  have inside : i < block.toList.length := Nat.lt_of_lt_of_eq bound Vector.length_toList.symm
  have blank : memory erased (settingsAddress + i) = erasedByte := by
    apply LawfulController.memory_of_erase reached
    · exact Nat.le_add_right _ i
    · exact Nat.add_lt_add_left (Nat.lt_of_lt_of_le bound fits) _
  have written : memory programmed (settingsAddress + i) =
      memory erased (settingsAddress + i) &&& block.toList[i] :=
    LawfulController.memory_of_program done i inside
  -- over bits that are all set, programming leaves the data itself
  calc (stored (lock programmed))[i]
    _ = memory programmed (settingsAddress + i) := by
      rw [stored, Vector.getElem_ofFn, LawfulController.memory_lock]
    _ = block.toList[i] := by rw [written, blank, Flash.and_erasedByte]
    _ = block[i] := Vector.getElem_toList inside

/-- After stores that all succeed the last block is there, behind a lock. -/
lemma Controller.Stores.stored_last {c c' : σ} {blocks : List Block} (stores : Stores c blocks c')
    {last : Block} (ends : blocks.getLast? = some last) :
    stored c' = last ∧ locked c' = true := by
  induction stores with
  | nil => cases ends
  | @cons c c₁ c₂ block blocks first later ih =>
    cases later with
    | nil =>
      cases ends
      have lock := locked_replace c block
      rw [first] at lock
      exact ⟨stored_replace first, lock⟩
    | cons => exact ih (by rwa [List.getLast?_cons_cons] at ends)

end

namespace Flash

instance : Controller Flash where
  unlock := Flash.unlock
  lock := Flash.lock
  erase := Flash.erase
  program f offset data := f.program (flashBase + offset) data
  locked := Flash.locked
  memory := Flash.memory

lemma store_eq_replace (f : Flash) (block : Block) : f.store block = replace f block := by
  have address : flashBase + (settingsAddress - flashBase) = settingsAddress := by decide
  have reached : Controller.erase (Controller.unlock f) settingsSector =
      f.unlock.erase settingsSector := rfl
  unfold store replace
  rw [reached]
  obtain ⟨ok, g⟩ := f.unlock.erase settingsSector
  cases ok with
  | false => rfl
  | true =>
    have done : Controller.program g (settingsAddress - flashBase) block.toList =
        g.program settingsAddress block.toList := by rw [← address]; rfl
    dsimp only
    rw [done]
    rfl

/-- Programming that works gets to the last byte. -/
lemma programmed_of_works {f : Flash} {length : Nat} (works : f.programFails length = false) :
    f.programmed length = length := by
  unfold programFails at works
  unfold programmed
  cases stops : f.faults.programStopsAfter with
  | none => rfl
  | some k =>
    rw [stops] at works
    exact Nat.min_eq_right (Nat.le_of_not_le (of_decide_eq_false works))

/-- Programming that works clears the bits that are clear in the data. -/
lemma memory_of_programs {f g : Flash} {address : Nat} {data : List UInt8}
    (programmed : f.program address data = (true, g)) {i : Nat} (inside : i < data.length) :
    g.memory (address + i) = f.memory (address + i) &&& data[i] := by
  unfold program at programmed
  split at programmed
  · cases programmed
  · have works : f.programFails data.length = false := by
      simpa using congrArg Prod.fst programmed
    have memory : _ = g.memory := congrArg (·.2.memory) programmed
    rw [← memory]
    simp [programmed_of_works works, inside]

instance : LawfulController Flash where
  locked_lock _ := rfl
  memory_lock _ := rfl
  memory_of_erase erased := (erased_of_erase erased).2.2
  memory_of_program programmed _ inside := memory_of_programs programmed inside

end Flash

/-- A store ends with the controller locked, whether it succeeds or not, and programs only after an
erase that has worked. If it succeeds the block can be read, whatever the memory held before, and
after stores that all succeed the last block can. So it is for the flash memory, whose store is this
one. -/
theorem store_durable {σ : Type} [Controller σ] [LawfulController σ] (c : σ) (block : Block) :
    let tapped := replace (Tapped.mk c []) block
    locked (replace c block).2 = true ∧
    (tapped.1 = (replace c block).1 ∧ tapped.2.controller = (replace c block).2 ∧
      (tapped.2.calls = [.unlock, .erase settingsSector false, .lock] ∧ tapped.1 = false ∨
        tapped.2.calls = [.unlock, .erase settingsSector true,
          .program (settingsAddress - flashBase) block.toList tapped.1, .lock])) ∧
    ((replace c block).1 = true → stored (replace c block).2 = block) ∧
    (∀ blocks c' last, Stores c blocks c' → blocks.getLast? = some last →
      stored c' = last ∧ locked c' = true) ∧
    ∀ (f : Flash) (b : Block), f.store b = replace f b ∧ f.load = stored f := by
  refine ⟨locked_replace c block, calls_replace c block, ?_, ?_, ?_⟩
  · intro success
    exact stored_replace (Prod.ext success rfl)
  · intro blocks c' last stores
    exact stores.stored_last
  · intro f b
    exact ⟨f.store_eq_replace b, rfl⟩

/-- All bits of the memory are clear. Two blocks are stored, and the second one can be read; if the
erase fails, nothing is programmed, and the controller is locked all the same. -/
theorem store_durable_zeroed :
    let zeroed : Flash := .holding fun _ => 0
    let first : Block := Settings.factory.encode
    let second : Block := ({ Settings.factory with deadzone := 9 }).encode
    let broken : Flash := { zeroed with faults := ⟨false, true, none⟩ }
    ((zeroed.store first).2.store second).2.load = second ∧
      (broken.store first).2.locked = true ∧
      (replace (Tapped.mk broken []) first).2.calls =
        [.unlock, .erase settingsSector false, .lock] := by
  intro zeroed first second broken
  obtain ⟨-, -, -, sequence, isStore⟩ := store_durable zeroed first
  obtain ⟨locked, calls, -⟩ := store_durable broken first
  have success (f : Flash) (b : Block) (ok : (f.store b).1 = true) :
      replace f b = (true, (f.store b).2) := by
    rw [← (isStore f b).1]
    exact Prod.ext ok rfl
  have stores : Stores zeroed [first, second] ((zeroed.store first).2.store second).2 :=
    .cons (success _ _ (by decide +kernel)) (.cons (success _ _ (by decide +kernel)) (.nil _))
  refine ⟨?_, ?_, ?_⟩
  · rw [(isStore _ first).2]
    exact (sequence _ _ second stores rfl).1
  · rw [(isStore broken first).1]
    exact locked
  · rcases calls.2.2 with ⟨calls, -⟩ | calls
    · exact calls
    · exact absurd calls (by decide +kernel)

end SpeedController.Board
