import SpeedController.Settings.Basic
import SpeedController.Word

/-!
# Messages of the configuration link

A host reads or writes the settings of the device. A READ request is a single byte. A WRITE request
is a kind byte and a payload of flags, deadzone and travel, and in the mixer version of the link
three words for the planes, high byte first. The device answers a READ with seven bytes and a WRITE
with one.
-/

namespace SpeedController.Link

open Mixing Power Receiver

/-- The two versions of the link, without and with plane coefficients. -/
inductive Version where
  | basic
  | mixer
  deriving DecidableEq, Repr

/-- The version that devices speak unless told otherwise. -/
instance : Inhabited Version := ⟨.mixer⟩

/-- The kind byte of a READ request. -/
def readKind : UInt8 := 0

/-- The kind byte of a WRITE request. -/
def writeKind : UInt8 := 1

/-- The first byte of an answer that grants a request. -/
def okByte : UInt8 := 1

/-- The answer that refuses a request. -/
def refusedByte : UInt8 := 0

/-- The flag of tank mode. -/
def tankFlag : UInt8 := 2

/-- The length of a READ answer. -/
abbrev readReplyLength : Nat := 7

/-- The length of flags, deadzone and travel in a WRITE payload. -/
abbrev basePayloadLength : Nat := 6

/-- The length of the plane coefficients in a WRITE payload. -/
abbrev coefficientsLength : Nat := 3 * 4

/-- The length of the longest WRITE request. -/
abbrev longestWrite : Nat := 1 + basePayloadLength + coefficientsLength

/-- The length of a WRITE payload. -/
def Version.payloadLength : Version → Nat
  | basic => basePayloadLength
  | mixer => basePayloadLength + coefficientsLength

/-- The flags byte of a mode. -/
def flagsOf : ControlMode → UInt8
  | .tank => tankFlag
  | .delta => 0

/-- The mode in a flags byte. Other flags are ignored. -/
def modeOf (flags : UInt8) : ControlMode := if flags &&& tankFlag ≠ 0 then .tank else .delta

/-- What a host says about the planes: an offset per motor and the slope that they share. -/
structure MixCoefficients where
  leftOffset : Int32
  rightOffset : Int32
  slope : Int32
  deriving DecidableEq, Repr

/-- The planes of both motors. They lean the same way along channel 1 and opposite ways along
channel 2. -/
def MixCoefficients.planes (c : MixCoefficients) : Sides Plane :=
  ⟨⟨c.leftOffset, c.slope, c.slope⟩, ⟨c.rightOffset, c.slope, -c.slope⟩⟩

/-- New settings from a host. -/
structure WriteRequest where
  mode : ControlMode
  deadzone : UInt8
  travel : Axes Travel
  coefficients : Option MixCoefficients
  deriving DecidableEq, Repr

namespace WriteRequest

/-- Read a payload. Only its length can be wrong. -/
def ofPayload? : Version → List UInt8 → Option WriteRequest
  | .basic, [flags, deadzone, low₁, high₁, low₂, high₂] =>
    some ⟨modeOf flags, deadzone, ⟨⟨low₁, high₁⟩, ⟨low₂, high₂⟩⟩, none⟩
  | .mixer, [flags, deadzone, low₁, high₁, low₂, high₂,
      l₃, l₂, l₁, l₀, r₃, r₂, r₁, r₀, s₃, s₂, s₁, s₀] =>
    some ⟨modeOf flags, deadzone, ⟨⟨low₁, high₁⟩, ⟨low₂, high₂⟩⟩,
      some ⟨Word.ofBytes l₀ l₁ l₂ l₃, Word.ofBytes r₀ r₁ r₂ r₃, Word.ofBytes s₀ s₁ s₂ s₃⟩⟩
  | _, _ => none

/-- The payload of a request. -/
def payload (w : WriteRequest) : List UInt8 :=
  [flagsOf w.mode, w.deadzone,
      w.travel.ch1.low, w.travel.ch1.high, w.travel.ch2.low, w.travel.ch2.high] ++
    match w.coefficients with
    | none => []
    | some c => Word.highFirst c.leftOffset ++ Word.highFirst c.rightOffset ++ Word.highFirst c.slope

/-- All bytes of a request. -/
def bytes (w : WriteRequest) : List UInt8 := writeKind :: w.payload

/-- Write a request to the front of a buffer. The answer is its length and the buffer, which keeps
what stands behind the request. -/
def writeInto (w : WriteRequest) (buffer : Vector UInt8 longestWrite) :
    Nat × Vector UInt8 longestWrite :=
  (w.bytes.length, Vector.ofFn fun i => w.bytes.getD i buffer[i])

/-- The settings that a request leaves behind. The planes stay unless it brings coefficients. -/
def applyTo (w : WriteRequest) (s : Settings) : Settings where
  mode := w.mode
  deadzone := w.deadzone
  travel := w.travel
  planes := (w.coefficients.map MixCoefficients.planes).getD s.planes

end WriteRequest

/-- A complete request of the host. -/
inductive Request where
  | read
  | write (w : WriteRequest)
  deriving DecidableEq, Repr

/-- What a host learns from a READ. -/
structure ReadReply where
  mode : ControlMode
  deadzone : UInt8
  travel : Axes Travel
  deriving DecidableEq, Repr

namespace ReadReply

/-- The answer of a device with some settings. -/
def ofSettings (s : Settings) : ReadReply := ⟨s.mode, s.deadzone, s.travel⟩

/-- The bytes of an answer. -/
def encode (r : ReadReply) : Vector UInt8 readReplyLength :=
  #v[okByte, flagsOf r.mode, r.deadzone,
    r.travel.ch1.low, r.travel.ch1.high, r.travel.ch2.low, r.travel.ch2.high]

/-- Read an answer. It must grant the request. -/
def decode? (b : Vector UInt8 readReplyLength) : Option ReadReply :=
  if b[0] = okByte then some ⟨modeOf b[1], b[2], ⟨⟨b[3], b[4]⟩, ⟨b[5], b[6]⟩⟩⟩ else none

end ReadReply

end SpeedController.Link
