import SpeedController.Settings.Storage

/-!
# Settings in flash memory

The settings are kept at the start of the last sector of the flash memory. Flash memory is erased a
sector at a time, which sets all bits, and programming only clears bits. A controller guards it: it
must be unlocked to erase or program, and is locked again after every store.

What the hardware can do wrong is a `FlashFaults`.
-/

namespace SpeedController.Board

open Settings (Block blockLength Store erasedByte)

/-- The address of the first sector. -/
def flashBase : Nat := 0x08000000

/-- The size of a sector in bytes. -/
def sectorSize (sector : Nat) : Nat :=
  if sector < 4 then 32 * 1024 else if sector = 4 then 128 * 1024 else 256 * 1024

/-- The address of a sector. -/
def sectorStart (sector : Nat) : Nat :=
  (List.range sector).foldl (fun start sector => start + sectorSize sector) flashBase

/-- The sector that holds the settings. -/
def settingsSector : Nat := 11

/-- The address of the settings. -/
def settingsAddress : Nat := 0x081C0000

theorem sectorStart_settingsSector : sectorStart settingsSector = settingsAddress := rfl

/-- Ways in which the hardware fails: unlocking has no effect, erasing fails and leaves the sector as
it is, or programming fails after a number of bytes. -/
structure FlashFaults where
  stuckLock : Bool
  eraseFails : Bool
  programStopsAfter : Option Nat
  deriving DecidableEq, Repr

/-- The flash memory by address and the state of its controller. `eraseLog` lists the sectors that
were erased, or tried to be, oldest first. -/
structure Flash where
  memory : Nat → UInt8
  locked : Bool
  eraseLog : List Nat
  faults : FlashFaults

namespace Flash

/-- A locked controller without faults over some memory. -/
def holding (memory : Nat → UInt8) : Flash := ⟨memory, true, [], ⟨false, false, none⟩⟩

/-- Allow changes. -/
def unlock (f : Flash) : Flash := if f.faults.stuckLock then f else { f with locked := false }

/-- Forbid changes. -/
def lock (f : Flash) : Flash := { f with locked := true }

/-- Set all bits of a sector, and tell whether that worked. -/
def erase (f : Flash) (sector : Nat) : Bool × Flash :=
  if f.locked then (false, f)
  else
    let f := { f with eraseLog := f.eraseLog ++ [sector] }
    if f.faults.eraseFails then (false, f)
    else
      let first := sectorStart sector
      let size := sectorSize sector
      (true, { f with
        memory := fun a => if first ≤ a ∧ a < first + size then erasedByte else f.memory a })

/-- How many of `length` bytes are programmed before programming fails, if it does. -/
def programmed (f : Flash) (length : Nat) : Nat :=
  match f.faults.programStopsAfter with
  | none => length
  | some k => min k length

/-- Whether programming so many bytes fails. It may fail even after the last one. -/
def programFails (f : Flash) (length : Nat) : Bool :=
  match f.faults.programStopsAfter with
  | none => false
  | some k => k ≤ length

/-- Clear the bits that are clear in the data, and tell whether that worked. -/
def program (f : Flash) (address : Nat) (data : List UInt8) : Bool × Flash :=
  if f.locked then (false, f)
  else
    let written := data.take (f.programmed data.length)
    (!f.programFails data.length, { f with
      memory := fun a =>
        if address ≤ a ∧ a < address + written.length then
          f.memory a &&& written.getD (a - address) erasedByte
        else f.memory a })

/-- Read the settings block. -/
def load (f : Flash) : Block := Vector.ofFn fun i => f.memory (settingsAddress + i)

/-- Replace the settings block, and tell whether that worked. Nothing is programmed unless the
erase succeeded, and the controller is locked in the end. -/
def store (f : Flash) (block : Block) : Bool × Flash :=
  match f.unlock.erase settingsSector with
  | (false, f) => (false, f.lock)
  | (true, f) =>
    let (ok, f) := f.program settingsAddress block.toList
    (ok, f.lock)

instance : Store Flash := ⟨fun f => some f.load, store⟩

end Flash

end SpeedController.Board
