import SpeedController.Link.Message

/-!
# Request decoder

Requests arrive byte by byte. Between requests every byte that is not a kind byte is skipped; after
the kind byte of a WRITE as many bytes as the payload has are collected, whatever their values. The
buffer is used again for every payload, so only its front, as far as it is filled, means anything.
-/

namespace SpeedController.Link

/-- A decoder of one version of the link. `fill` is the number of payload bytes in the buffer while a
WRITE is being collected. -/
structure Decoder where
  version : Version
  buffer : Vector UInt8 (basePayloadLength + coefficientsLength)
  fill : Option Nat
  deriving DecidableEq, Repr

namespace Decoder

/-- A decoder that waits for its first request. -/
def start (version : Version) : Decoder := ⟨version, Vector.replicate _ 0, none⟩

/-- Whether a WRITE is being collected. -/
def inProgress (d : Decoder) : Bool := d.fill.isSome

/-- Give up the WRITE that is being collected. -/
def abort (d : Decoder) : Decoder := { d with fill := none }

/-- Take a byte. The last byte of a request completes it. -/
def push (d : Decoder) (byte : UInt8) : Option Request × Decoder :=
  match d.fill with
  | none =>
    if byte = readKind then (some .read, d)
    else if byte = writeKind then (none, { d with fill := some 0 })
    else (none, d)
  | some n =>
    let buffer := d.buffer.setIfInBounds n byte
    if n + 1 < d.version.payloadLength then (none, { d with buffer, fill := some (n + 1) })
    else
      ((WriteRequest.ofPayload? d.version (buffer.toList.take d.version.payloadLength)).map .write,
        { d with buffer, fill := none })

/-- Take bytes in order. The answer lists the completed requests with the position of their last
byte, where the first byte has position `at`. -/
def feed (d : Decoder) (position : Nat) : List UInt8 → List (Nat × Request) × Decoder
  | [] => ([], d)
  | byte :: rest =>
    match d.push byte with
    | (none, d) => d.feed (position + 1) rest
    | (some request, d) =>
      let (later, d) := d.feed (position + 1) rest
      ((position, request) :: later, d)

end Decoder

end SpeedController.Link
