import SpeedController.Proofs.Link.Polling

/-!
# Pipelined requests

A host need not wait for an answer before it sends the next request. `Queued` says that the bytes
that wait are complete requests, with bytes that mean nothing before them. A poll of a session that
waits for a request then answers the first one and leaves the others queued (`Polled.first`).
-/

namespace SpeedController.Link

open Settings (Store)

/-- Bytes that are complete requests, each behind bytes that are not the kind byte of a request. -/
inductive Queued (v : Version) : List Request → List UInt8 → Prop where
  | nil :
    Queued v [] []
  | skip {byte request requests bytes} :
    byte ≠ readKind → byte ≠ writeKind → Queued v (request :: requests) bytes →
    Queued v (request :: requests) (byte :: bytes)
  | read {requests bytes} :
    Queued v requests bytes →
    Queued v (.read :: requests) (readKind :: bytes)
  | write {payload w requests bytes} :
    WriteRequest.ofPayload? v payload = some w → Queued v requests bytes →
    Queued v (.write w :: requests) (writeKind :: (payload ++ bytes))

/-- Requests take bytes. -/
lemma Queued.ne_nil {v : Version} {request : Request} {requests : List Request} {bytes : List UInt8}
    (queued : Queued v (request :: requests) bytes) : bytes ≠ [] := by
  cases queued <;> exact List.cons_ne_nil _ _

lemma Queued.eq_nil {v : Version} {bytes : List UInt8} (queued : Queued v [] bytes) : bytes = [] := by
  cases queued
  rfl

namespace Decoder

lemma push_version (d : Decoder) (byte : UInt8) : (d.push byte).2.version = d.version := by
  unfold push
  repeat' split
  all_goals rfl

lemma feed_version (d : Decoder) (p : Nat) (bytes : List UInt8) :
    (d.feed p bytes).2.version = d.version := by
  induction bytes generalizing d p with
  | nil => rfl
  | cons byte bytes ih =>
    have pushed := d.push_version byte
    rw [feed]
    generalize d.push byte = pair at pushed ⊢
    obtain ⟨_ | request, d'⟩ := pair
    · exact (ih d' (p + 1)).trans pushed
    · exact (ih d' (p + 1)).trans pushed

lemma Completes.version {d d' : Decoder} {bytes : List UInt8} {request : Request}
    (completes : d.Completes bytes request d') : d'.version = d.version := by
  obtain ⟨first, last, rfl, fed⟩ := completes
  have same := d.feed_version 0 (first ++ [last])
  rw [fed] at same
  exact same

/-- A WRITE that a decoder completes was spelled by a payload. -/
lemma push_spelled {d : Decoder} {byte : UInt8} {w : WriteRequest}
    (pushed : (d.push byte).1 = some (.write w)) :
    ∃ payload, WriteRequest.ofPayload? d.version payload = some w := by
  unfold push at pushed
  split at pushed
  · split at pushed
    · cases pushed
    · split at pushed <;> cases pushed
  · dsimp only at pushed
    split at pushed
    · cases pushed
    · obtain ⟨w', spelled, same⟩ := Option.map_eq_some_iff.1 pushed
      cases same
      exact ⟨_, spelled⟩

lemma Completes.spelled {d d' : Decoder} {bytes : List UInt8} {w : WriteRequest}
    (completes : d.Completes bytes (.write w) d') :
    ∃ payload, WriteRequest.ofPayload? d.version payload = some w := by
  obtain ⟨first, last, d₁, rfl, fed, pushed⟩ := completes.snoc
  have version := d.feed_version 0 first
  rw [fed] at version
  rw [← version]
  exact push_spelled (congrArg Prod.fst pushed)

/-- The bytes of a WRITE complete it. -/
lemma completes_write {d : Decoder} {payload : List UInt8} {w : WriteRequest} (holds : d.Holds none)
    (spelled : WriteRequest.ofPayload? d.version payload = some w) :
    ∃ d', d.Completes (writeKind :: payload) (.write w) d' ∧ d'.Holds none := by
  obtain ⟨d₁, pushed, version₁, holds₁⟩ := push_begin holds
  rw [← version₁] at spelled
  have full := WriteRequest.length_of_ofPayload? spelled
  obtain ⟨d₂, fed, -, holds₂⟩ :=
    feed_complete holds₁ 0 payload (by rw [List.length_nil, Nat.zero_add, full])
  rw [List.nil_append, spelled, Nat.zero_add] at fed
  have some_bytes : payload ≠ [] := by
    rintro rfl
    cases version : d₁.version <;> simp [version, Version.payloadLength] at full
  exact ⟨d₂, .cons pushed (.of_feed some_bytes fed), holds₂⟩

end Decoder

/-- A decoder that waits for a request completes the first one that is queued. -/
lemma Queued.completes {d : Decoder} {v : Version} {request : Request} {requests : List Request}
    {bytes : List UInt8} (queued : Queued v (request :: requests) bytes) (holds : d.Holds none)
    (same : d.version = v) :
    ∃ used rest d', bytes = used ++ rest ∧ d.Completes used request d' ∧ d'.Holds none ∧
      Queued v requests rest := by
  generalize whole : request :: requests = all at queued
  induction queued with
  | nil => cases whole
  | @skip byte _ _ bytes other other' _ ih =>
    obtain ⟨used, rest, d', rfl, completes, holds', queued⟩ := ih whole
    exact ⟨byte :: used, rest, d', rfl, .cons (Decoder.push_skip holds other other') completes,
      holds', queued⟩
  | @read _ bytes queued =>
    cases whole
    exact ⟨[readKind], bytes, d, rfl, .single (Decoder.push_read holds), holds, queued⟩
  | @write payload w _ bytes spelled queued =>
    cases whole
    rw [← same] at spelled
    obtain ⟨d', completes, holds'⟩ := Decoder.completes_write holds spelled
    exact ⟨writeKind :: payload, bytes, d', rfl, completes, holds', queued⟩

namespace Session

variable {S : Type} [Store S] {s s' : Session} {e e' : Endpoint Loopback S} {now : UInt32}
  {t : Option Transaction}

lemma expire_version (s : Session) (now : UInt32) :
    (s.expire now).decoder.version = s.decoder.version := by
  unfold expire
  split <;> rfl

/-- A session speaks one version of the link. -/
lemma Polled.version (polled : Polled s e now t s' e') : s'.decoder.version = s.decoder.version := by
  cases polled with
  | answer _ completes => exact completes.version
  | @dry decoder fed =>
    have same := s.decoder.feed_version 0 e.transport.incoming.entries
    rw [fed] at same
    exact (expire_version _ now).trans same

/-- A session that waits for a request answers the first one that is queued, and the others stay
queued. -/
lemma Polled.first {v : Version} {request : Request} {requests : List Request}
    (polled : Polled s e now t s' e') (holds : s.decoder.Holds none) (same : s.decoder.version = v)
    (queued : Queued v (request :: requests) e.transport.incoming.entries) :
    ∃ incoming, t = some ({ e with transport.incoming := incoming }.serve request).1 ∧
      e' = ({ e with transport.incoming := incoming }.serve request).2 ∧
      s'.decoder.Holds none ∧ Queued v requests incoming.entries := by
  obtain ⟨used, rest, d', split, completes, holds', queued'⟩ := queued.completes holds same
  cases polled with
  | @answer used' incoming request' decoder split' completes' =>
    obtain ⟨rfl, rfl, rfl⟩ := completes.unique completes' (split.symm.trans split')
    obtain rfl : rest = incoming.entries := List.append_cancel_left (split.symm.trans split')
    exact ⟨incoming, rfl, rfl, holds', queued'⟩
  | dry fed => exact absurd (split ▸ fed 0) (completes.not_dry 0)

end Session

end SpeedController.Link
