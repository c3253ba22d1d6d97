import Mathlib.Tactic.Lemma
import SpeedController.Link.Decoder
import SpeedController.Link.Grammar

/-!
# Decoding

The decoder takes a byte string byte by byte, the grammar reads it as a whole. `Holds` says what a
decoder has seen of a request; with it a decoder between two requests answers what the grammar finds
and is left with what the grammar finds cut off (`feed_eq_reading`), so it does not matter where a
byte string is cut (`feed_append`).
-/

namespace SpeedController.Link

namespace WriteRequest

/-- Only a payload of the right length is a request. -/
lemma length_of_ofPayload? {v : Version} {payload : List UInt8} {w : WriteRequest}
    (h : ofPayload? v payload = some w) : payload.length = v.payloadLength := by
  unfold ofPayload? at h
  split at h
  · rfl
  · rfl
  · cases h

end WriteRequest

namespace Decoder

/-- What the decoder has seen of a request: nothing, or the front of the payload of a WRITE. -/
inductive Holds (d : Decoder) : Option (List UInt8) → Prop where
  | idle :
    d.fill = none →
    Holds d none
  | collecting {payload} :
    d.fill = some payload.length → payload.length < d.version.payloadLength →
    d.buffer.toList.take payload.length = payload →
    Holds d (some payload)

lemma Holds.inProgress {d : Decoder} {payload : Option (List UInt8)} (holds : d.Holds payload) :
    d.inProgress = payload.isSome := by
  cases holds with
  | idle fill | collecting fill =>
    rw [Decoder.inProgress, fill]
    rfl

lemma holds_of_idle {d : Decoder} (idle : d.inProgress = false) : d.Holds none :=
  .idle (Option.not_isSome_iff_eq_none.1 (Bool.eq_false_iff.1 idle))

lemma payloadLength_le (v : Version) : v.payloadLength ≤ basePayloadLength + coefficientsLength := by
  cases v <;> decide

/-- A byte that is put behind the front of a buffer extends it. -/
lemma take_setIfInBounds {n : Nat} {buffer : Vector UInt8 n} {payload : List UInt8} (byte : UInt8)
    (fits : payload.length < n) (front : buffer.toList.take payload.length = payload) :
    (buffer.setIfInBounds payload.length byte).toList.take (payload.length + 1) =
      payload ++ [byte] := by
  have inside : payload.length < buffer.toList.length := by simpa using fits
  rw [Vector.toList_setIfInBounds, List.take_add_one, List.take_set_of_le (Nat.le_refl _), front,
    List.getElem?_set_self inside]
  rfl

/-- A byte that does not complete the payload is collected. -/
lemma push_collect {d : Decoder} {payload : List UInt8} (holds : d.Holds (some payload))
    (byte : UInt8) (short : payload.length + 1 < d.version.payloadLength) :
    ∃ d', d.push byte = (none, d') ∧ d'.version = d.version ∧ d'.Holds (some (payload ++ [byte])) := by
  cases holds with
  | collecting fill _ front =>
    have fits := Nat.lt_of_lt_of_le short (payloadLength_le d.version)
    refine ⟨{ d with
      buffer := d.buffer.setIfInBounds payload.length byte
      fill := some (payload.length + 1) }, ?_, rfl, .collecting ?_ ?_ ?_⟩
    · simp only [push, fill, short, if_true]
    · simp
    · simpa using short
    · simpa using take_setIfInBounds byte (by omega) front

/-- The last byte of a payload completes the request. -/
lemma push_complete {d : Decoder} {payload : List UInt8} (holds : d.Holds (some payload))
    (byte : UInt8) (full : payload.length + 1 = d.version.payloadLength) :
    ∃ d', d.push byte = ((WriteRequest.ofPayload? d.version (payload ++ [byte])).map .write, d') ∧
      d'.version = d.version ∧ d'.Holds none := by
  cases holds with
  | collecting fill _ front =>
    have fits := payloadLength_le d.version
    refine ⟨{ d with
      buffer := d.buffer.setIfInBounds payload.length byte
      fill := none }, ?_, rfl, .idle rfl⟩
    have whole := take_setIfInBounds byte (by omega) front
    rw [full] at whole
    simp only [push, fill, full, Nat.lt_irrefl, if_false, whole]

/-- Between requests a byte that begins none is skipped. -/
lemma push_skip {d : Decoder} {byte : UInt8} (holds : d.Holds none) (notRead : byte ≠ readKind)
    (notWrite : byte ≠ writeKind) : d.push byte = (none, d) := by
  cases holds with
  | idle fill => simp only [push, fill, notRead, notWrite, if_false]

lemma push_read {d : Decoder} (holds : d.Holds none) : d.push readKind = (some .read, d) := by
  cases holds with
  | idle fill => simp only [push, fill, if_true]

/-- The kind byte of a WRITE begins a payload. -/
lemma push_begin {d : Decoder} (holds : d.Holds none) :
    ∃ d', d.push writeKind = (none, d') ∧ d'.version = d.version ∧ d'.Holds (some []) := by
  cases holds with
  | idle fill =>
    refine ⟨{ d with fill := some 0 }, ?_, rfl, .collecting rfl ?_ rfl⟩
    · simp only [push, fill, show writeKind ≠ readKind by decide, if_true, if_false]
    · cases d.version <;> decide

/-- Bytes can be fed in two parts. -/
lemma feed_append (d : Decoder) (p : Nat) (as bs : List UInt8) :
    d.feed p (as ++ bs) =
      ((d.feed p as).1 ++ ((d.feed p as).2.feed (p + as.length) bs).1,
        ((d.feed p as).2.feed (p + as.length) bs).2) := by
  induction as generalizing d p with
  | nil => rfl
  | cons a as ih =>
    have shift : p + (a :: as).length = p + 1 + as.length := by simp; omega
    rw [shift, List.cons_append, feed, feed]
    rcases d.push a with ⟨_ | request, d'⟩
    · exact ih d' (p + 1)
    · simp only [ih d' (p + 1), List.cons_append]

/-- Where a byte string begins only shows in the positions. -/
lemma feed_shift (d : Decoder) (p : Nat) (bytes : List UInt8) :
    d.feed p bytes = ((d.feed 0 bytes).1.map fun r => (p + r.1, r.2), (d.feed 0 bytes).2) := by
  induction bytes generalizing d p with
  | nil => rfl
  | cons byte bytes ih =>
    rw [feed, feed]
    rcases d.push byte with ⟨_ | request, d'⟩
    · simp only [ih d' (p + 1), ih d' (0 + 1), List.map_map, Function.comp_def, Nat.add_assoc,
        Nat.zero_add]
    · simp only [ih d' (p + 1), ih d' (0 + 1), List.map_cons, List.map_map, Function.comp_def,
        Nat.add_assoc, Nat.zero_add, Nat.add_zero]

/-- A decoder that collects a payload goes on with the bytes of it that come. -/
lemma feed_collect {d : Decoder} {payload : List UInt8} (holds : d.Holds (some payload)) (p : Nat)
    (bytes : List UInt8) (short : payload.length + bytes.length < d.version.payloadLength) :
    ∃ d', d.feed p bytes = ([], d') ∧ d'.version = d.version ∧ d'.Holds (some (payload ++ bytes)) := by
  induction bytes generalizing d p payload with
  | nil => exact ⟨d, rfl, rfl, by simpa using holds⟩
  | cons byte bytes ih =>
    simp only [List.length_cons] at short
    obtain ⟨d₁, pushed, version₁, holds₁⟩ := push_collect holds byte (by omega)
    obtain ⟨d₂, fed, version₂, holds₂⟩ :=
      ih holds₁ (p + 1) (by simp only [version₁, List.length_append, List.length_singleton]; omega)
    refine ⟨d₂, ?_, version₂.trans version₁, by simpa using holds₂⟩
    rw [feed, pushed]
    exact fed

/-- A decoder that collects a payload completes the request with the last byte of it. -/
lemma feed_complete {d : Decoder} {payload : List UInt8} (holds : d.Holds (some payload)) (p : Nat)
    (bytes : List UInt8) (full : payload.length + bytes.length = d.version.payloadLength) :
    ∃ d', d.feed p bytes =
        ((WriteRequest.ofPayload? d.version (payload ++ bytes)).toList.map fun w =>
          (p + bytes.length - 1, .write w), d') ∧
      d'.version = d.version ∧ d'.Holds none := by
  have unfinished : payload.length < d.version.payloadLength := by
    cases holds
    assumption
  rcases List.eq_nil_or_concat bytes with rfl | ⟨bytes, last, rfl⟩
  · simp only [List.length_nil] at full
    omega
  rw [List.concat_eq_append] at *
  simp only [List.length_append, List.length_singleton] at full
  obtain ⟨d₁, fed, version₁, holds₁⟩ := feed_collect holds p bytes (by omega)
  obtain ⟨d₂, pushed, version₂, holds₂⟩ := push_complete holds₁ last
    (by simp only [version₁, List.length_append]; omega)
  refine ⟨d₂, ?_, version₂.trans version₁, holds₂⟩
  rw [feed_append, fed, feed, pushed, version₁, List.append_assoc]
  cases WriteRequest.ofPayload? d.version (payload ++ (bytes ++ [last])) with
  | none => rfl
  | some w => simp [feed]

/-- A decoder that waits for a request reads a byte string as the grammar does, whatever was fed to
it before. -/
theorem feed_eq_reading {d : Decoder} (idle : d.Holds none) (p : Nat) (bytes : List UInt8) :
    ∃ d', d.feed p bytes = ((Reading.ofBytes d.version p bytes).requests, d') ∧
      d'.version = d.version ∧ d'.Holds (Reading.ofBytes d.version p bytes).cutOff := by
  generalize same : d.version = v
  -- along the grammar, with one case for each way in which a byte string can begin
  induction p, bytes using Reading.ofBytes.induct v generalizing d with
  | case1 p =>
    rw [Reading.ofBytes]
    exact ⟨d, rfl, same, idle⟩
  | case2 p rest ih =>
    obtain ⟨d', fed, version, holds⟩ := ih idle same
    rw [Reading.ofBytes, if_pos rfl]
    refine ⟨d', ?_, version, holds⟩
    rw [feed, push_read idle]
    simp only [fed]
    rfl
  | case3 p rest short =>
    rw [Reading.ofBytes, if_neg (by decide), if_pos rfl, if_pos short]
    obtain ⟨d₁, pushed, version₁, holds₁⟩ := push_begin idle
    rw [← same, ← version₁] at short
    obtain ⟨d₂, fed, version₂, holds₂⟩ := feed_collect holds₁ (p + 1) rest (by simpa using short)
    refine ⟨d₂, ?_, by rw [version₂, version₁, same], holds₂⟩
    rw [feed, pushed]
    exact fed
  | case4 p rest long last _ =>
    rename_i ih
    rw [Reading.ofBytes, if_neg (by decide), if_pos rfl, if_neg long]
    obtain ⟨d₁, pushed, version₁, holds₁⟩ := push_begin idle
    -- first the payload of the WRITE, then what stands behind it
    have size : (rest.take v.payloadLength).length = v.payloadLength := by
      rw [List.length_take]
      omega
    obtain ⟨d₂, fed₂, version₂, holds₂⟩ := feed_complete holds₁ (p + 1)
      (rest.take v.payloadLength) (by rw [version₁, same, List.length_nil]; omega)
    obtain ⟨d₃, fed₃, version₃, holds₃⟩ := ih holds₂ (by rw [version₂, version₁, same])
    refine ⟨d₃, ?_, version₃, holds₃⟩
    have behind : p + 1 + (rest.take v.payloadLength).length = last + 1 := by omega
    have fed := feed_append d₁ (p + 1) (rest.take v.payloadLength) (rest.drop v.payloadLength)
    rw [List.take_append_drop, fed₂, behind, fed₃, Nat.add_sub_cancel, version₁, same] at fed
    rw [feed, pushed]
    exact fed
  | case5 p byte rest notRead notWrite ih =>
    obtain ⟨d', fed, version, holds⟩ := ih idle same
    rw [Reading.ofBytes, if_neg notRead, if_neg notWrite]
    refine ⟨d', ?_, version, holds⟩
    rw [feed, push_skip idle notRead notWrite]
    exact fed

end Decoder

end SpeedController.Link
