import Mathlib.Data.List.GetD
import SpeedController.Proofs.Link.Acceptance
import SpeedController.Proofs.Link.Service

/-!
# Wire format

Host and device read each other's messages as they were meant. A WRITE request that the host puts
into a buffer takes the front of it and leaves the rest alone (`toList_writeInto`); the device reads
it back (`ofPayload?_payload`), and whatever payload it reads is that of the request that it reads, up
to flags that mean nothing (`payload_of_ofPayload?`). The same goes for the answer to a READ
(`ReadReply.encode_of_decode?`). Together this is `wire_format_agreed`.
-/

namespace SpeedController.Link

/-- Of the flags only the one of tank mode is kept. -/
lemma flagsOf_modeOf (flags : UInt8) : flagsOf (modeOf flags) = flags &&& tankFlag := by
  have bit : flags &&& tankFlag = if flags.toBitVec.getLsbD 1 then tankFlag else 0 := by
    apply UInt8.toBitVec_inj.1
    rw [UInt8.toBitVec_and]
    refine (BitVec.and_twoPow flags.toBitVec 1).trans ?_
    split <;> rfl
  rw [modeOf, bit]
  split <;> rfl

namespace WriteRequest

variable {v : Version} {payload : List UInt8} {w : WriteRequest}

/-- The version of the link that has such requests. -/
def version (w : WriteRequest) : Version := if w.coefficients.isSome then .mixer else .basic

lemma length_payload (w : WriteRequest) : w.payload.length = w.version.payloadLength := by
  obtain ⟨mode, deadzone, travel, _ | c⟩ := w <;> rfl

lemma length_bytes (w : WriteRequest) : w.bytes.length = w.version.payloadLength + 1 :=
  congrArg (· + 1) w.length_payload

/-- A request is read back from its payload. -/
lemma ofPayload?_payload (w : WriteRequest) : ofPayload? w.version w.payload = some w := by
  obtain ⟨mode, deadzone, travel, _ | c⟩ := w
  · simp [version, payload, ofPayload?, modeOf_flagsOf]
  · simp [version, payload, ofPayload?, Word.highFirst, modeOf_flagsOf]

/-- Only the length of a payload can be wrong. -/
lemma ofPayload?_eq_none_iff : ofPayload? v payload = none ↔ payload.length ≠ v.payloadLength := by
  constructor
  · intro refused full
    obtain ⟨w, read⟩ := exists_ofPayload? full
    rw [refused] at read
    cases read
  · intro wrong
    cases read : ofPayload? v payload with
    | none => rfl
    | some w => exact absurd (length_of_ofPayload? read) wrong

/-- The payload of a request is the one that it was read from, but for flags that mean nothing. -/
lemma payload_of_ofPayload? (read : ofPayload? v payload = some w) :
    w.payload = payload.modifyHead (· &&& tankFlag) := by
  unfold ofPayload? at read
  split at read
  · cases read
    simp [WriteRequest.payload, flagsOf_modeOf]
  · cases read
    simp [WriteRequest.payload, flagsOf_modeOf, Word.highFirst_ofBytes]
  · cases read

lemma getElem_writeInto (w : WriteRequest) (buffer : Vector UInt8 longestWrite) {i : Nat}
    (inside : i < longestWrite) : (w.writeInto buffer).2[i] = w.bytes.getD i buffer[i] := by
  unfold writeInto
  exact Vector.getElem_ofFn inside

/-- A request takes the front of a buffer and leaves the rest alone. -/
lemma toList_writeInto (w : WriteRequest) (buffer : Vector UInt8 longestWrite) :
    (w.writeInto buffer).2.toList = w.bytes ++ buffer.toList.drop w.bytes.length := by
  have fits : w.bytes.length ≤ longestWrite := by
    rw [length_bytes]
    exact Nat.succ_le_succ (Decoder.payloadLength_le w.version)
  apply List.ext_getElem
  · rw [Vector.length_toList, List.length_append, List.length_drop, Vector.length_toList]
    omega
  · intro i inside _
    rw [Vector.length_toList] at inside
    rw [Vector.getElem_toList, getElem_writeInto w buffer inside]
    rcases Nat.lt_or_ge i w.bytes.length with front | behind
    · rw [List.getElem_append_left front, List.getD_eq_getElem _ _ front]
    · rw [List.getElem_append_right behind, List.getD_eq_default _ _ behind, List.getElem_drop,
        Vector.getElem_toList]
      congr 1
      omega

/-- The payload that a request leaves in a buffer, behind its kind byte. -/
def payloadIn (w : WriteRequest) (buffer : Vector UInt8 longestWrite) : List UInt8 :=
  ((w.writeInto buffer).2.toList.take (w.writeInto buffer).1).drop 1

lemma payloadIn_eq (w : WriteRequest) (buffer : Vector UInt8 longestWrite) :
    w.payloadIn buffer = w.payload := by
  rw [payloadIn, toList_writeInto, writeInto, List.take_left]
  rfl

end WriteRequest

namespace ReadReply

variable {b : Vector UInt8 readReplyLength} {r : ReadReply}

/-- Only an answer that grants the request is read. -/
lemma decode?_eq_none_iff : decode? b = none ↔ b[0] ≠ okByte := by
  unfold decode?
  by_cases granted : b[0] = okByte
  · simp [granted]
  · simp [granted]

/-- The bytes of an answer are those that it was read from, but for flags that mean nothing. -/
lemma encode_of_decode? (read : decode? b = some r) : r.encode = b.set 1 (b[1] &&& tankFlag) := by
  unfold decode? at read
  split at read
  · next granted =>
    cases read
    rw [encode, flagsOf_modeOf, ← granted]
    match b with
    | ⟨⟨[_, _, _, _, _, _, _]⟩, _⟩ => rfl
  · cases read

end ReadReply

/-- A host that puts a WRITE into a buffer writes 7 bytes of it, or 19 with coefficients, and no
others, and the device reads the payload among them as the request that was meant. The device refuses
a payload only for its length, and a request that it reads has that payload, but for flags that mean
nothing. The host reads an answer to a READ as it was meant, refuses one only if it does not grant the
request, and what it reads has the bytes of the answer, but for such flags. -/
theorem wire_format_agreed :
    (∀ (w : WriteRequest) (buffer : Vector UInt8 longestWrite),
      (w.writeInto buffer).1 = (if w.coefficients.isSome then 19 else 7) ∧
      (∀ (i : Nat) (inside : i < longestWrite), (w.writeInto buffer).1 ≤ i →
        (w.writeInto buffer).2[i] = buffer[i]) ∧
      WriteRequest.ofPayload? w.version (w.payloadIn buffer) = some w) ∧
    (∀ (v : Version) (payload : List UInt8),
      (WriteRequest.ofPayload? v payload = none ↔ payload.length ≠ v.payloadLength) ∧
      ∀ w, WriteRequest.ofPayload? v payload = some w →
        ∀ buffer, w.payloadIn buffer = payload.modifyHead (· &&& tankFlag)) ∧
    (∀ r : ReadReply, ReadReply.decode? r.encode = some r) ∧
    ∀ b : Vector UInt8 readReplyLength,
      (ReadReply.decode? b = none ↔ b[0] ≠ okByte) ∧
      ∀ r, ReadReply.decode? b = some r → r.encode = b.set 1 (b[1] &&& tankFlag) := by
  refine ⟨fun w buffer => ⟨?_, ?_, ?_⟩, fun v payload => ⟨WriteRequest.ofPayload?_eq_none_iff, ?_⟩,
    ReadReply.decode?_encode, fun b => ⟨ReadReply.decode?_eq_none_iff, fun r => ReadReply.encode_of_decode?⟩⟩
  · show w.bytes.length = _
    rw [WriteRequest.length_bytes, WriteRequest.version]
    cases w.coefficients <;> rfl
  · intro i inside behind
    rw [WriteRequest.getElem_writeInto w buffer inside, List.getD_eq_default _ _ behind]
  · rw [WriteRequest.payloadIn_eq, WriteRequest.ofPayload?_payload]
  · intro w read buffer
    rw [WriteRequest.payloadIn_eq, WriteRequest.payload_of_ofPayload? read]

/-- A payload with all flags but that of tank mode is read as a request, which has no flags; the
other version of the link refuses it, and the basic request takes only 7 bytes of a buffer. -/
theorem wire_format_agreed_flags :
    let payload : List UInt8 :=
      [0xFD, 7, 10, 240, 12, 238, 0, 0, 1, 0, 255, 255, 255, 254, 255, 255, 255, 191]
    let w : WriteRequest := ⟨.delta, 7, ⟨⟨10, 240⟩, ⟨12, 238⟩⟩, some ⟨256, -2, -65⟩⟩
    let used : Vector UInt8 longestWrite := Vector.replicate _ 0xAA
    WriteRequest.ofPayload? .mixer payload = some w ∧
      w.payloadIn used = 0 :: payload.tail ∧
      WriteRequest.ofPayload? .basic payload = none ∧
      ({ w with coefficients := none }.writeInto used).2[7] = 0xAA := by
  intro payload w used
  obtain ⟨sent, received, -⟩ := wire_format_agreed
  have read : WriteRequest.ofPayload? .mixer payload = some w := by decide +kernel
  exact ⟨read, (received .mixer payload).2 w read used, (received .basic payload).1.2 (by decide),
    (sent { w with coefficients := none } used).2.1 7 (by decide) (by decide +kernel)⟩

end SpeedController.Link
