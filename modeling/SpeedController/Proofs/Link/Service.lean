import SpeedController.Proofs.Link.Polling
import SpeedController.Proofs.Settings.Recall

/-!
# Service

What the requests of a host do to a device, said without a session: `Memory` is what they read and
change, `Demand` is a request together with the mood of the store, and a list of demands is served
in order by `Memory.afterAll` and answered by `Memory.replies`. What a WRITE is to install is said
part by part in `WriteRequest.installed`. `serve_ram` says that an endpoint serves just so.
-/

namespace SpeedController.Link

open Settings (Store RamStore)

/-- The settings that a host is to have by a request on a device with the settings `s`: its own mode,
deadzone and travel, and the planes of its coefficients, or those of `s` if it brings none. -/
def WriteRequest.installed (w : WriteRequest) (s : Settings) : Settings where
  mode := w.mode
  deadzone := w.deadzone
  travel := w.travel
  planes :=
    match w.coefficients with
    | none => s.planes
    | some k => ⟨⟨k.leftOffset, k.slope, k.slope⟩, ⟨k.rightOffset, k.slope, -k.slope⟩⟩

lemma WriteRequest.applyTo_eq (w : WriteRequest) (s : Settings) : w.applyTo s = w.installed s := by
  unfold applyTo installed
  cases w.coefficients <;> rfl

/-- The live settings, the stored block and the number of writes of the store. -/
structure Memory where
  settings : Settings
  block : Settings.Block
  writes : Nat
  deriving DecidableEq

/-- A request, and whether the store fails when it comes. -/
structure Demand where
  request : Request
  failing : Bool
  deriving DecidableEq

/-- How a demand ends. -/
def Demand.transaction (d : Demand) : Transaction :=
  match d.request with
  | .read => .read
  | .write _ => if d.failing then .writeFailed else .written

/-- The length of the answer to a request. -/
def Transaction.replyLength : Transaction → Nat
  | .read => readReplyLength
  | .written | .writeFailed => 1

/-- The requests of a byte string, as demands on a store that always fails or never does. -/
def Reading.demands (r : Reading) (failing : Bool) : List Demand :=
  r.requests.map fun request => ⟨request.2, failing⟩

namespace Memory

/-- What a demand leaves. A WRITE that cannot be stored leaves everything as it is. -/
def after (m : Memory) (d : Demand) : Memory :=
  match d.request with
  | .read => m
  | .write w =>
    if d.failing then m else ⟨w.installed m.settings, (w.installed m.settings).encode, m.writes + 1⟩

/-- The answer to a demand. -/
def reply (m : Memory) (d : Demand) : List UInt8 :=
  match d.request with
  | .read =>
    [okByte, flagsOf m.settings.mode, m.settings.deadzone, m.settings.travel.ch1.low,
      m.settings.travel.ch1.high, m.settings.travel.ch2.low, m.settings.travel.ch2.high]
  | .write _ => [if d.failing then refusedByte else okByte]

/-- What demands leave, one after the other. -/
def afterAll (m : Memory) (ds : List Demand) : Memory := ds.foldl after m

/-- The answers to demands, one after the other. -/
def replies (m : Memory) : List Demand → List (List UInt8)
  | [] => []
  | d :: ds => m.reply d :: (m.after d).replies ds

lemma afterAll_append (m : Memory) (ds fs : List Demand) :
    m.afterAll (ds ++ fs) = (m.afterAll ds).afterAll fs := List.foldl_append

lemma replies_append (m : Memory) (ds fs : List Demand) :
    m.replies (ds ++ fs) = m.replies ds ++ (m.afterAll ds).replies fs := by
  induction ds generalizing m with
  | nil => rfl
  | cons d ds ih => exact congrArg (m.reply d :: ·) (ih (m.after d))

/-- While the block yields the live settings, a demand leaves it so: what becomes live is stored. -/
lemma effective_after {m : Memory} (settled : Settings.effective m.block = m.settings) (d : Demand) :
    Settings.effective (m.after d).block = (m.after d).settings := by
  obtain ⟨request, failing⟩ := d
  cases request with
  | read => exact settled
  | write w =>
    cases failing with
    | true => exact settled
    | false => exact Settings.effective_encode _

lemma effective_afterAll {m : Memory} (settled : Settings.effective m.block = m.settings)
    (ds : List Demand) : Settings.effective (m.afterAll ds).block = (m.afterAll ds).settings := by
  induction ds generalizing m with
  | nil => exact settled
  | cons d ds ih => exact ih (effective_after settled d)

lemma length_reply (m : Memory) (d : Demand) :
    (m.reply d).length = d.transaction.replyLength := by
  obtain ⟨request, failing⟩ := d
  cases request with
  | read => rfl
  | write w => cases failing <;> rfl

end Memory

lemma modeOf_flagsOf (m : ControlMode) : modeOf (flagsOf m) = m := by cases m <;> rfl

/-- A host reads the answer to a READ as it was meant. -/
lemma ReadReply.decode?_encode (r : ReadReply) : decode? r.encode = some r := by
  have granted : r.encode[0] = okByte := rfl
  have flags : r.encode[1] = flagsOf r.mode := rfl
  rw [decode?, if_pos granted, flags, modeOf_flagsOf]
  rfl

namespace Endpoint

/-- What the requests of a host find. -/
def memory {T : Type} (e : Endpoint T RamStore) : Memory := ⟨e.settings, e.store.block, e.store.writes⟩

/-- A request is served as the demand that it makes on the store. Its answer is sent if it fits. -/
lemma serve_ram (e : Endpoint Loopback RamStore) (request : Request) :
    e.serve request =
      let d : Demand := ⟨request, e.store.failWrites⟩
      (d.transaction, {
        transport := { e.transport with
          outgoing := (e.transport.outgoing.append? (e.memory.reply d)).getD e.transport.outgoing }
        store := { e.store with
          block := (e.memory.after d).block
          writes := (e.memory.after d).writes }
        settings := (e.memory.after d).settings }) := by
  obtain ⟨transport, ⟨block, writes, failing, loading⟩, settings⟩ := e
  simp only [← Loopback.write_snd]
  cases request with
  | read => rfl
  | write w =>
    rw [serve, Settings.save_ram, w.applyTo_eq]
    cases failing <;> rfl

end Endpoint

end SpeedController.Link
