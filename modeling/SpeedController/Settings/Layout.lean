import SpeedController.Settings.Basic
import SpeedController.Word

/-!
# Stored layout of the settings

Settings are stored as one block of 31 bytes.

| offset | size | field |
| ------ | ---- | ----- |
| 0      | 1    | mark: 0 when configured |
| 1      | 1    | code of the mode |
| 2      | 1    | deadzone |
| 3      | 4    | low and high end of channel 1, then of channel 2 |
| 7      | 24   | coefficients r, s, t of the left plane, then of the right one, low byte first |
-/

namespace SpeedController.Settings

open Mixing Power Receiver

/-- The number of bytes that settings take. -/
abbrev blockLength : Nat := 31

/-- The stored form of settings. -/
abbrev Block := Vector UInt8 blockLength

/-- The mark of a block that holds settings. -/
def configuredMark : UInt8 := 0

/-- What every byte of an erased block reads as. -/
def erasedByte : UInt8 := 255

/-- A block that nothing has been written to. -/
def erasedBlock : Block := Vector.replicate blockLength erasedByte

/-- What a block holds. -/
inductive Contents where
  | unconfigured
  | corrupt
  | configured (settings : Settings)
  deriving DecidableEq, Repr

/-- The bytes of some settings, in the order of the layout. -/
def bytes (s : Settings) : List UInt8 :=
  [configuredMark, s.mode.code, s.deadzone,
      s.travel.ch1.low, s.travel.ch1.high, s.travel.ch2.low, s.travel.ch2.high] ++
    (Word.lowFirst s.planes.left.r ++ Word.lowFirst s.planes.left.s ++
      Word.lowFirst s.planes.left.t) ++
    (Word.lowFirst s.planes.right.r ++ Word.lowFirst s.planes.right.s ++
      Word.lowFirst s.planes.right.t)

/-- The block of some settings. -/
def encode (s : Settings) : Block := ⟨s.bytes.toArray, rfl⟩

/-- The word whose four bytes begin at an offset of a block. -/
def wordAt (b : Block) (offset : Fin 28) : Int32 :=
  have fits : offset.val + 3 < blockLength := Nat.add_lt_add_right offset.isLt 3
  Word.ofBytes b[offset.val] b[offset.val + 1] b[offset.val + 2] b[offset.val + 3]

/-- Read a block. The mark is looked at before the mode. -/
def Contents.ofBlock (b : Block) : Contents :=
  if b[0] ≠ configuredMark then .unconfigured
  else
    match ControlMode.ofCode? b[1] with
    | none => .corrupt
    | some mode => .configured {
        mode
        deadzone := b[2]
        travel := ⟨⟨b[3], b[4]⟩, ⟨b[5], b[6]⟩⟩
        planes := ⟨⟨wordAt b 7, wordAt b 11, wordAt b 15⟩, ⟨wordAt b 19, wordAt b 23, wordAt b 27⟩⟩ }

/-- The settings that a device with this block runs on: those in the block, or else the factory
settings. -/
def effective (b : Block) : Settings :=
  match Contents.ofBlock b with
  | .configured s => s
  | .unconfigured | .corrupt => factory

end SpeedController.Settings
