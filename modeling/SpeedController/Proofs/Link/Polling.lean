import SpeedController.Link.Session
import SpeedController.Proofs.Link.Decoding

/-!
# Polling

`Polled` lists what a poll of a session over a loopback can do: the front of the bytes that wait
completes a request, which is served, or all of them are taken and complete none. `poll_polled` is
the inversion of `Session.poll`; whatever else is proved about polls goes through its two cases.
-/

namespace SpeedController.Link

open Settings (Store)

namespace Decoder

/-- Exactly the last of the bytes completes a request, and no byte before it does. -/
def Completes (d : Decoder) (bytes : List UInt8) (request : Request) (d' : Decoder) : Prop :=
  ∃ first last, bytes = first ++ [last] ∧ ∀ p, d.feed p bytes = ([(p + first.length, request)], d')

/-- It does not matter where the bytes begin. -/
lemma Completes.of_feed {d d' : Decoder} {bytes : List UInt8} {request : Request} (some_bytes : bytes ≠ [])
    (fed : d.feed 0 bytes = ([(bytes.length - 1, request)], d')) : d.Completes bytes request d' := by
  rcases List.eq_nil_or_concat bytes with rfl | ⟨first, last, rfl⟩
  · exact absurd rfl some_bytes
  · rw [List.concat_eq_append] at fed ⊢
    refine ⟨first, last, rfl, fun p => ?_⟩
    rw [feed_shift, fed, List.length_append, List.length_singleton, Nat.add_sub_cancel]
    rfl

lemma Completes.single {d d' : Decoder} {byte : UInt8} {request : Request}
    (pushed : d.push byte = (some request, d')) : d.Completes [byte] request d' := by
  refine ⟨[], byte, rfl, fun p => ?_⟩
  rw [feed, pushed]
  rfl

lemma Completes.cons {d d₁ d₂ : Decoder} {byte : UInt8} {bytes : List UInt8} {request : Request}
    (pushed : d.push byte = (none, d₁)) (completes : d₁.Completes bytes request d₂) :
    d.Completes (byte :: bytes) request d₂ := by
  obtain ⟨first, last, rfl, fed⟩ := completes
  refine ⟨byte :: first, last, rfl, fun p => ?_⟩
  rw [feed, pushed]
  show d₁.feed (p + 1) (first ++ [last]) = _
  rw [fed, List.length_cons, Nat.add_assoc, Nat.add_comm 1]

/-- No two fronts of a byte string complete their first request with their last byte. -/
lemma Completes.unique {d d₁ d₂ : Decoder} {as bs cs ds : List UInt8} {r₁ r₂ : Request}
    (h₁ : d.Completes as r₁ d₁) (h₂ : d.Completes bs r₂ d₂) (same : as ++ cs = bs ++ ds) :
    as = bs ∧ r₁ = r₂ ∧ d₁ = d₂ := by
  obtain ⟨first₁, last₁, rfl, fed₁⟩ := h₁
  obtain ⟨first₂, last₂, rfl, fed₂⟩ := h₂
  have whole := feed_append d 0 (first₁ ++ [last₁]) cs
  rw [same, feed_append, fed₁, fed₂] at whole
  simp only [List.singleton_append, Prod.mk.injEq, List.cons.injEq] at whole
  obtain ⟨⟨⟨position, rfl⟩, -⟩, -⟩ := whole
  have length : (first₁ ++ [last₁]).length = (first₂ ++ [last₂]).length := by
    simp only [List.length_append, List.length_singleton]
    omega
  have equal := List.append_inj_left same length
  refine ⟨equal, rfl, ?_⟩
  have fed := fed₁ 0
  rw [equal, fed₂ 0] at fed
  exact (congrArg Prod.snd fed).symm

lemma feed_position_lt {d : Decoder} {p : Nat} {bytes : List UInt8} {r : Nat × Request}
    (fed : r ∈ (d.feed p bytes).1) : r.1 < p + bytes.length := by
  induction bytes generalizing d p with
  | nil => cases fed
  | cons byte bytes ih =>
    rw [List.length_cons]
    rcases pushed : d.push byte with ⟨_ | request, d'⟩
    · rw [feed, pushed] at fed
      have := ih fed
      omega
    · rw [feed, pushed] at fed
      rcases List.mem_cons.1 fed with rfl | later
      · exact Nat.lt_add_of_pos_right (Nat.succ_pos _)
      · have := ih later
        omega

/-- The bytes before the last one complete nothing, and the last one completes the request. -/
lemma Completes.snoc {d d' : Decoder} {bytes : List UInt8} {request : Request}
    (completes : d.Completes bytes request d') :
    ∃ first last d₁, bytes = first ++ [last] ∧ (∀ p, d.feed p first = ([], d₁)) ∧
      d₁.push last = (some request, d') := by
  obtain ⟨first, last, rfl, fed⟩ := completes
  have whole := fed 0
  rw [feed_append, feed] at whole
  refine ⟨first, last, (d.feed 0 first).2, rfl, ?_⟩
  rcases pushed : (d.feed 0 first).2.push last with ⟨_ | request', d₂⟩
  · -- the request would be complete before the last byte
    rw [pushed] at whole
    simp only [feed, List.append_nil, Prod.mk.injEq] at whole
    have member : (0 + first.length, request) ∈ (d.feed 0 first).1 := by
      rw [whole.1]
      exact List.mem_singleton_self _
    exact absurd (feed_position_lt member) (Nat.lt_irrefl _)
  · rw [pushed] at whole
    obtain ⟨requests, rfl⟩ := Prod.mk.inj whole
    obtain ⟨nothing, same⟩ :=
      (List.append_eq_singleton_iff.1 requests).resolve_right (by simp [feed])
    cases same
    refine ⟨fun p => ?_, rfl⟩
    rw [feed_shift, nothing]
    rfl

/-- Bytes that complete no request have no front that completes one. -/
lemma Completes.not_dry {d d₁ d₂ : Decoder} {as bs : List UInt8} {request : Request}
    (completes : d.Completes as request d₁) (p : Nat) : d.feed p (as ++ bs) ≠ ([], d₂) := by
  obtain ⟨first, last, rfl, fed⟩ := completes
  rw [feed_append, fed]
  simp

end Decoder

namespace Session

/-- A request that is not too old is kept. -/
lemma expire_of_young {s : Session} {now : UInt32}
    (young : s.inProgress = true → now - s.lastByte < requestTimeout) : s.expire now = s := by
  unfold expire
  split
  · rename_i old
    exact absurd (young old.1) (UInt32.not_lt.2 old.2)
  · rfl

section
variable {T S : Type} [Transport T] [Store S] {s : Session} {e : Endpoint T S} {now : UInt32}

lemma poll_of_dry {transport : T} (taken : Transport.read e.transport = (none, transport)) :
    s.poll e now = (none, s.expire now, { e with transport }) := by
  rw [poll]
  split <;> rename_i again <;> rw [taken] at again <;> cases again
  rfl

lemma poll_of_more {transport : T} {byte : UInt8} {decoder : Decoder}
    (taken : Transport.read e.transport = (some byte, transport))
    (pushed : s.decoder.push byte = (none, decoder)) :
    s.poll e now = poll ⟨decoder, now⟩ { e with transport } now := by
  rw [poll]
  split <;> rename_i again <;> rw [taken] at again <;> cases again
  rw [pushed]

lemma poll_of_last {transport : T} {byte : UInt8} {request : Request} {decoder : Decoder}
    (taken : Transport.read e.transport = (some byte, transport))
    (pushed : s.decoder.push byte = (some request, decoder)) :
    s.poll e now = (some ({ e with transport }.serve request).1, ⟨decoder, now⟩,
      ({ e with transport }.serve request).2) := by
  rw [poll]
  split <;> rename_i again <;> rw [taken] at again <;> cases again
  rw [pushed]

end

variable {S : Type} [Store S]

/-- What a poll at time `now` does to a session and its endpoint, with the answer of the poll. -/
inductive Polled (s : Session) (e : Endpoint Loopback S) (now : UInt32) :
    Option Transaction → Session → Endpoint Loopback S → Prop where
  /-- The front of the bytes that wait completes a request, which is served. -/
  | answer {used incoming request decoder} :
    e.transport.incoming.entries = used ++ incoming.entries →
    s.decoder.Completes used request decoder →
    Polled s e now
      (some ({ e with transport.incoming := incoming }.serve request).1) ⟨decoder, now⟩
      ({ e with transport.incoming := incoming }.serve request).2
  /-- All bytes are taken and complete nothing; then the age of the last byte is checked. -/
  | dry {decoder} :
    (∀ p, s.decoder.feed p e.transport.incoming.entries = ([], decoder)) →
    Polled s e now none
      (expire ⟨decoder, if e.transport.incoming.entries = [] then s.lastByte else now⟩ now)
      { e with transport.incoming := .empty }

/-- Every poll is one of these. -/
theorem poll_polled (s : Session) (e : Endpoint Loopback S) (now : UInt32) :
    Polled s e now (s.poll e now).1 (s.poll e now).2.1 (s.poll e now).2.2 := by
  -- along the bytes that wait: the poll takes the first one and goes on, or serves and stops
  generalize waiting : e.transport.incoming.entries = bytes
  induction bytes generalizing s e with
  | nil =>
    rw [poll_of_dry (Loopback.read_of_nil waiting)]
    have fed : ∀ p, s.decoder.feed p e.transport.incoming.entries = ([], s.decoder) := by
      intro p
      rw [waiting]
      rfl
    have dry : Polled s e now _ _ _ := .dry fed
    rw [if_pos waiting, ← Fifo.eq_of_entries (r := .empty) waiting] at dry
    exact dry
  | cons byte rest ih =>
    obtain ⟨incoming, read, rfl⟩ := Loopback.read_of_cons waiting
    rcases pushed : s.decoder.push byte with ⟨_ | request, decoder⟩
    · rw [poll_of_more read pushed]
      have later := ih ⟨decoder, now⟩ { e with transport.incoming := incoming } rfl
      generalize poll ⟨decoder, now⟩ { e with transport.incoming := incoming } now = polled at later
      obtain ⟨transaction, s', e'⟩ := polled
      cases later with
      | answer split completes =>
        refine .answer ?_ (completes.cons pushed)
        rw [waiting, show incoming.entries = _ from split, List.cons_append]
      | @dry after fed =>
        have fed : ∀ p, s.decoder.feed p e.transport.incoming.entries = ([], after) := by
          intro p
          rw [waiting, Decoder.feed, pushed]
          exact fed (p + 1)
        have dry : Polled s e now _ _ _ := .dry fed
        rw [if_neg (by simp [waiting])] at dry
        rw [ite_self]
        exact dry
    · rw [poll_of_last read pushed]
      have split : e.transport.incoming.entries = [byte] ++ incoming.entries := waiting
      exact .answer split (.single pushed)

end Session

end SpeedController.Link
