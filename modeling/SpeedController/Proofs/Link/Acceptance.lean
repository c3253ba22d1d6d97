import SpeedController.Proofs.Link.Decoding

/-!
# Acceptance

What a decoder of one version of the link can be used for, and what its past means for its future.
However it was used, a decoder has seen nothing of a request or the front of a payload that fits its
buffer (`Use.holds`), and two decoders that have seen the same answer alike from then on, whatever is
left in their buffers (`Alike.answers_eq`). Together with the grammar this is `grammar_accepted`: a
decoder that waits for a request accepts exactly the grammar, and no complete WRITE is lost.
-/

namespace SpeedController.Link

/-- Every payload of the right length is a request, whatever its bytes. -/
lemma WriteRequest.exists_ofPayload? {v : Version} {payload : List UInt8}
    (full : payload.length = v.payloadLength) : ∃ w, ofPayload? v payload = some w := by
  cases v with
  | basic =>
    match payload, full with
    | [_, _, _, _, _, _], _ => exact ⟨_, rfl⟩
  | mixer =>
    match payload, full with
    | [_, _, _, _, _, _, _, _, _, _, _, _, _, _, _, _, _, _], _ => exact ⟨_, rfl⟩

namespace Decoder

/-- Something done to a decoder. -/
inductive Use where
  | push (byte : UInt8)
  | abort
  deriving DecidableEq, Repr

/-- The decoder after a use. -/
def use (d : Decoder) : Use → Decoder
  | .push byte => (d.push byte).2
  | .abort => d.abort

/-- The request that a use completes. -/
def answer (d : Decoder) : Use → Option Request
  | .push byte => (d.push byte).1
  | .abort => none

/-- The decoder after uses in order. -/
def useAll (d : Decoder) (us : List Use) : Decoder := us.foldl use d

/-- What each of the uses completes. -/
def answers (d : Decoder) : List Use → List (Option Request)
  | [] => []
  | u :: us => d.answer u :: (d.use u).answers us

/-- Decoders of one version that have seen the same of a request. -/
def Alike (d d' : Decoder) : Prop :=
  d'.version = d.version ∧ ∃ payload, d.Holds payload ∧ d'.Holds payload

/-- A byte completes the same request for both, if any, and leaves them alike. -/
lemma Alike.push {d d' : Decoder} (alike : d.Alike d') (byte : UInt8) :
    (d'.push byte).1 = (d.push byte).1 ∧ (d.push byte).2.Alike (d'.push byte).2 ∧
      (d.push byte).2.version = d.version := by
  obtain ⟨same, payload, holds, holds'⟩ := alike
  cases payload with
  | none =>
    by_cases read : byte = readKind
    · subst read
      rw [push_read holds, push_read holds']
      exact ⟨rfl, ⟨same, none, holds, holds'⟩, rfl⟩
    by_cases write : byte = writeKind
    · subst write
      obtain ⟨e, pushed, version, begun⟩ := push_begin holds
      obtain ⟨e', pushed', version', begun'⟩ := push_begin holds'
      rw [pushed, pushed']
      exact ⟨rfl, ⟨by rw [version', same, version], some [], begun, begun'⟩, version⟩
    · rw [push_skip holds read write, push_skip holds' read write]
      exact ⟨rfl, ⟨same, none, holds, holds'⟩, rfl⟩
  | some payload =>
    by_cases short : payload.length + 1 < d.version.payloadLength
    · obtain ⟨e, pushed, version, more⟩ := push_collect holds byte short
      obtain ⟨e', pushed', version', more'⟩ := push_collect holds' byte (by rwa [same])
      rw [pushed, pushed']
      exact ⟨rfl, ⟨by rw [version', same, version], _, more, more'⟩, version⟩
    · have full : payload.length + 1 = d.version.payloadLength := by
        cases holds
        omega
      obtain ⟨e, pushed, version, idle⟩ := push_complete holds byte full
      obtain ⟨e', pushed', version', idle'⟩ := push_complete holds' byte (by rwa [same])
      rw [pushed, pushed', same]
      exact ⟨rfl, ⟨by rw [version', same, version], none, idle, idle'⟩, version⟩

lemma Alike.use {d d' : Decoder} (alike : d.Alike d') (u : Use) :
    d'.answer u = d.answer u ∧ (d.use u).Alike (d'.use u) ∧ (d.use u).version = d.version := by
  cases u with
  | push byte => exact alike.push byte
  | abort => exact ⟨rfl, ⟨alike.1, none, .idle rfl, .idle rfl⟩, rfl⟩

/-- Decoders that are alike cannot be told apart by any uses. -/
lemma Alike.useAll {d d' : Decoder} (alike : d.Alike d') (us : List Use) :
    d'.answers us = d.answers us ∧ (d.useAll us).Alike (d'.useAll us) ∧
      (d.useAll us).version = d.version := by
  induction us generalizing d d' with
  | nil => exact ⟨rfl, alike, rfl⟩
  | cons u us ih =>
    obtain ⟨answer, next, version⟩ := alike.use u
    obtain ⟨answers, last, version'⟩ := ih next
    refine ⟨?_, last, version'.trans version⟩
    rw [Decoder.answers, Decoder.answers, answer, answers]

/-- The number of payload bytes in the buffer, while a payload is collected. -/
lemma Holds.fill_eq {d : Decoder} {payload : List UInt8} {n : Nat} (holds : d.Holds (some payload))
    (fill : d.fill = some n) : n = payload.length ∧ payload.length < d.version.payloadLength := by
  cases holds with
  | collecting fill' short => exact ⟨Option.some.inj (fill.symm.trans fill'), short⟩

/-- The last byte of a payload completes a WRITE, and no byte before it does. -/
lemma push_isSome_iff {d : Decoder} {payload : List UInt8} (holds : d.Holds (some payload))
    (byte : UInt8) :
    (d.push byte).1.isSome = true ↔ payload.length + 1 = d.version.payloadLength := by
  by_cases short : payload.length + 1 < d.version.payloadLength
  · obtain ⟨_, pushed, -⟩ := push_collect holds byte short
    rw [pushed]
    simp [Nat.ne_of_lt short]
  · have full : payload.length + 1 = d.version.payloadLength := by
      cases holds
      omega
    obtain ⟨_, pushed, -⟩ := push_complete holds byte full
    have whole : (payload ++ [byte]).length = d.version.payloadLength := by
      rw [List.length_append, List.length_singleton, full]
    obtain ⟨w, spelled⟩ := WriteRequest.exists_ofPayload? whole
    rw [pushed, spelled]
    simp [full]

/-- Whatever was done to a decoder, it has seen nothing of a request or the front of a payload. -/
lemma exists_holds (v : Version) (us : List Use) :
    ((start v).useAll us).version = v ∧ ∃ payload, ((start v).useAll us).Holds payload := by
  have fresh : (start v).Alike (start v) := ⟨rfl, none, .idle rfl, .idle rfl⟩
  obtain ⟨-, ⟨-, payload, holds, -⟩, version⟩ := fresh.useAll us
  exact ⟨version, payload, holds⟩

lemma alike_of_idle {v : Version} {past past' : List Use}
    (idle : ((start v).useAll past).inProgress = false)
    (idle' : ((start v).useAll past').inProgress = false) :
    ((start v).useAll past).Alike ((start v).useAll past') :=
  ⟨(exists_holds v past').1.trans (exists_holds v past).1.symm, none,
    holds_of_idle idle, holds_of_idle idle'⟩

/-- A decoder may have been used in any way. Then a payload byte has a place in its buffer, and the
last byte of a payload always completes a WRITE: any bytes of the right number are one. If it waits
for a request, it completes those that the grammar finds, where the grammar finds them, and collects
a WRITE afterwards exactly if the grammar finds one cut off. No other decoder of its version that
waits for a request can be told from it. -/
theorem grammar_accepted (v : Version) (past : List Use) :
    let d := (start v).useAll past
    (∀ payload, payload.length = v.payloadLength →
      ∃ w, WriteRequest.ofPayload? v payload = some w) ∧
    (∀ n, d.fill = some n → n < v.payloadLength ∧ v.payloadLength ≤ d.buffer.size ∧
      ∀ byte, (d.push byte).1.isSome = true ↔ n + 1 = v.payloadLength) ∧
    (d.inProgress = false →
      (∀ position bytes,
        (d.feed position bytes).1 = (Reading.ofBytes v position bytes).requests ∧
        (d.feed position bytes).2.inProgress =
          (Reading.ofBytes v position bytes).cutOff.isSome) ∧
      ∀ past', ((start v).useAll past').inProgress = false → ∀ us,
        ((start v).useAll past').answers us = d.answers us ∧
        (((start v).useAll past').useAll us).inProgress = (d.useAll us).inProgress) := by
  intro d
  obtain ⟨version, payload, holds⟩ := exists_holds v past
  refine ⟨fun payload => WriteRequest.exists_ofPayload?, fun n fill => ?_, fun idle => ⟨?_, ?_⟩⟩
  · cases payload with
    | none =>
      cases holds with
      | idle empty => cases empty.symm.trans fill
    | some payload =>
      obtain ⟨rfl, short⟩ := holds.fill_eq fill
      rw [version] at short
      refine ⟨short, payloadLength_le v, fun byte => ?_⟩
      rw [push_isSome_iff holds, version]
  · intro position bytes
    obtain ⟨d', fed, -, holds'⟩ := feed_eq_reading (holds_of_idle idle) position bytes
    rw [fed, ← version]
    exact ⟨rfl, holds'.inProgress⟩
  · intro past' idle' us
    obtain ⟨answers, ⟨-, _, last, last'⟩, -⟩ := (alike_of_idle idle idle').useAll us
    exact ⟨answers, last'.inProgress.trans last.inProgress.symm⟩

/-- The payload of a WRITE was aborted after two bytes, and its remains are still in the buffer. Then
come a byte that means nothing, a READ, a WRITE made of kind bytes, and the front of another one. -/
theorem grammar_accepted_remains :
    let d := (start .basic).useAll [.push 1, .push 9, .push 9, .abort]
    let bytes : List UInt8 := [66, 0, 1, 0, 1, 0, 1, 1, 0, 1]
    d.inProgress = false ∧ d.buffer ≠ (start .basic).buffer ∧
      (Reading.ofBytes .basic 0 bytes).requests =
        [(1, .read), (8, .write ⟨.delta, 1, ⟨⟨0, 1⟩, ⟨1, 0⟩⟩, none⟩)] ∧
      (Reading.ofBytes .basic 0 bytes).cutOff.isSome = true ∧
      ∀ us, d.answers us = (start .basic).answers us := by
  intro d bytes
  have idle : d.inProgress = false := by decide
  obtain ⟨-, -, accepts⟩ := grammar_accepted .basic [.push 1, .push 9, .push 9, .abort]
  obtain ⟨read, same⟩ := accepts idle
  obtain ⟨requests, cutOff⟩ := read 0 bytes
  refine ⟨idle, by decide, ?_, ?_, fun us => ((same [] rfl us).1).symm⟩
  · rw [← requests]
    decide
  · rw [← cutOff]
    decide

end Decoder

end SpeedController.Link
