import SpeedController.Link.Decoder
import SpeedController.Link.Transport
import SpeedController.Settings.Storage

/-!
# Configuration session

A session decodes the bytes of a transport and answers the requests of the host, at most one in a
poll. New settings are stored before they become live, so a WRITE whose store fails leaves the
device as it was. A request that stays incomplete for a second is dropped.
-/

namespace SpeedController.Link

open Settings (Store)

/-- How long a request may wait for its next byte, in milliseconds. -/
def requestTimeout : UInt32 := 1000

/-- A request that has been answered. -/
inductive Transaction where
  | read
  | written
  | writeFailed
  deriving DecidableEq, Repr

/-- What a session works on: a transport, a store and the live settings. -/
structure Endpoint (T S : Type) where
  transport : T
  store : S
  settings : Settings
  deriving DecidableEq, Repr

namespace Endpoint

variable {T S : Type} [Transport T] [Store S]

/-- Send an answer. One that the transport refuses is lost. -/
def send (e : Endpoint T S) (bytes : List UInt8) : Endpoint T S :=
  { e with transport := (Transport.write e.transport bytes).2 }

/-- Answer a request. -/
def serve (e : Endpoint T S) : Request → Transaction × Endpoint T S
  | .read => (.read, e.send (ReadReply.ofSettings e.settings).encode.toList)
  | .write w =>
    let settings := w.applyTo e.settings
    match Settings.save e.store settings with
    | (.ok (), store) => (.written, { e with store, settings }.send [okByte])
    | (.error _, store) => (.writeFailed, { e with store }.send [refusedByte])

end Endpoint

/-- A decoder and the time of the last byte. -/
structure Session where
  decoder : Decoder
  lastByte : UInt32
  deriving DecidableEq, Repr

namespace Session

variable {T S : Type} [Transport T] [Store S]

/-- A session in which nothing has happened. -/
def start (version : Version) : Session := ⟨.start version, 0⟩

/-- Begin to wait for a request at a time. -/
def restart (s : Session) (now : UInt32) : Session := ⟨s.decoder.abort, now⟩

/-- Whether a request is incomplete. -/
def inProgress (s : Session) : Bool := s.decoder.inProgress

/-- Drop an incomplete request whose last byte is too old. -/
def expire (s : Session) (now : UInt32) : Session :=
  if s.inProgress ∧ requestTimeout ≤ now - s.lastByte then { s with decoder := s.decoder.abort }
  else s

/-- Take bytes until one completes a request, and answer that; the bytes behind it keep waiting. If
they run out first, check the age of the incomplete request. -/
def poll (s : Session) (e : Endpoint T S) (now : UInt32) :
    Option Transaction × Session × Endpoint T S :=
  match _taken : Transport.read e.transport with
  | (none, transport) => (none, s.expire now, { e with transport })
  | (some byte, transport) =>
    match s.decoder.push byte with
    | (none, decoder) => poll ⟨decoder, now⟩ { e with transport } now
    | (some request, decoder) =>
      let (transaction, e) := { e with transport }.serve request
      (some transaction, ⟨decoder, now⟩, e)
termination_by Transport.backlog e.transport
decreasing_by exact Transport.backlog_lt _taken

end Session

end SpeedController.Link
