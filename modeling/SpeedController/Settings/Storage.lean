import SpeedController.Settings.Layout

/-!
# Keeping settings

Settings survive a power cycle in a store of one block. At boot they are restored; a block that is
not configured or corrupt is replaced by the factory settings.
-/

namespace SpeedController.Settings

/-- A place for one block. Storing tells whether it succeeded. -/
class Store (S : Type) where
  load : S → Option Block
  store : S → Block → Bool × S

/-- What can be wrong with stored settings. -/
inductive Error where
  | corrupt
  | storage
  deriving DecidableEq, Repr

/-- The text of an error. -/
def Error.message : Error → String
  | corrupt => "stored configuration is corrupt"
  | storage => "configuration storage failed"

variable {S : Type} [Store S]

/-- Store settings. -/
def save (store : S) (s : Settings) : Except Error Unit × S :=
  match Store.store store s.encode with
  | (true, store) => (.ok (), store)
  | (false, store) => (.error .storage, store)

/-- Load the settings at boot, and repair the store if it holds none. -/
def restore (store : S) : Except Error Settings × S :=
  match Store.load store with
  | none => (.error .storage, store)
  | some block =>
    match Contents.ofBlock block with
    | .configured s => (.ok s, store)
    | .unconfigured | .corrupt =>
      match save store factory with
      | (.ok (), store) => (.ok factory, store)
      | (.error e, store) => (.error e, store)

/-- A block in memory. It counts the stores that succeeded, and stores and loads can be made to
fail. -/
structure RamStore where
  block : Block
  writes : Nat
  failWrites : Bool
  failLoads : Bool
  deriving DecidableEq, Repr

namespace RamStore

/-- A working store that holds a block. -/
def holding (block : Block) : RamStore := ⟨block, 0, false, false⟩

/-- Read the block. -/
def load (r : RamStore) : Option Block := if r.failLoads then none else some r.block

/-- Replace the block. -/
def store (r : RamStore) (block : Block) : Bool × RamStore :=
  if r.failWrites then (false, r) else (true, { r with block, writes := r.writes + 1 })

instance : Store RamStore := ⟨load, store⟩

end RamStore

end SpeedController.Settings
