import SpeedController.Proofs.Link.Service

/-!
# Console

A session over a loopback and a store in memory, with everything that can happen to it: bytes come,
answers are collected, the session is begun again or polled at any time, and the store begins or
ceases to fail. `transactions`, `received` and `sent` list what a run did.
-/

namespace SpeedController.Link

open Settings (Store RamStore)

/-- A session and its endpoint, in memory. -/
structure Console where
  session : Session
  endpoint : Endpoint Loopback RamStore
  deriving DecidableEq

namespace Console

/-- Something that happens to a console. -/
inductive Event where
  | receive (bytes : List UInt8)
  | collect
  | restart (now : UInt32)
  | poll (now : UInt32)
  | failWrites (fail : Bool)
  deriving DecidableEq, Repr

/-- Power up on a store, with the factory settings when its own cannot be restored. -/
def boot (version : Version) (store : RamStore) : Console :=
  let (restored, store) := Settings.restore store
  ⟨.start version, .empty, store, match restored with | .ok s => s | .error _ => .factory⟩

/-- The bytes that wait for the device. -/
def waiting (c : Console) : List UInt8 := c.endpoint.transport.incoming.entries

/-- The answers that wait for the host. -/
def outbox (c : Console) : List UInt8 := c.endpoint.transport.outgoing.entries

/-- Poll the session. -/
def poll (c : Console) (now : UInt32) : Option Transaction × Console :=
  let (transaction, session, endpoint) := c.session.poll c.endpoint now
  (transaction, ⟨session, endpoint⟩)

/-- The console after an event. -/
def handle (c : Console) : Event → Console
  | .receive bytes => { c with endpoint.transport := c.endpoint.transport.inject bytes }
  | .collect => { c with endpoint.transport := c.endpoint.transport.takeSent.2 }
  | .restart now => { c with session := c.session.restart now }
  | .poll now => (c.poll now).2
  | .failWrites fail => { c with endpoint.store.failWrites := fail }

/-- The console after a sequence of events. -/
def run (c : Console) (es : List Event) : Console := es.foldl handle c

/-- The transaction that an event ends. -/
def outcome (c : Console) : Event → Option Transaction
  | .poll now => (c.poll now).1
  | _ => none

/-- The answers that an event hands to the host. -/
def collected (c : Console) : Event → List UInt8
  | .collect => c.outbox
  | _ => []

/-- The transactions of a run. -/
def transactions (c : Console) : List Event → List Transaction
  | [] => []
  | e :: es => (c.outcome e).toList ++ (c.handle e).transactions es

/-- The answers of a run, those that are not collected yet included. -/
def sent (c : Console) : List Event → List UInt8
  | [] => c.outbox
  | e :: es => c.collected e ++ (c.handle e).sent es

/-- The bytes that an event brings. -/
def Event.bytes : Event → List UInt8
  | .receive bytes => bytes
  | _ => []

/-- The bytes that come in a run. -/
def received (es : List Event) : List UInt8 := es.flatMap Event.bytes

lemma run_append (c : Console) (es fs : List Event) : c.run (es ++ fs) = (c.run es).run fs :=
  List.foldl_append

/-- The session polls the endpoint. -/
lemma polled (c : Console) (now : UInt32) :
    c.session.Polled c.endpoint now (c.poll now).1 (c.poll now).2.session (c.poll now).2.endpoint :=
  c.session.poll_polled c.endpoint now

end Console

end SpeedController.Link
