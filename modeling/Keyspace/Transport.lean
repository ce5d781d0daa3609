/-
# Transports

Clients talk to their peers through a transport: one request goes to the peer at an
address, one response comes back. What lies behind it is up to the monad in which the
transport works: a state that answers at once, or the outside world. A peer that
reports a failure has answered; a call fails only where the exchange itself did, or
where the answer made no sense.
-/

import Keyspace.Message

namespace Keyspace

/-- A call that may fail. -/
abbrev Call (m : Type → Type) := ExceptT KvError m

/-- The outcome of a call started in `state`, and the state it leaves behind, also if it fails. -/
def Call.start {σ α : Type} (call : Call (StateM σ) α) (state : σ) : KvResult α × σ :=
  (ExceptT.run call).run state

/-- A way to send requests to peers. -/
structure Transport (m : Type → Type) where
  send : (address : String) → Request → Call m Response

/-- A request on its way. -/
structure Sent where
  address : String
  request : Request
deriving DecidableEq, Repr

namespace Transport

/-- A transport that always brings back the same. -/
def constant {m : Type → Type} [Monad m] (reply : KvResult Response) : Transport m where
  send _ _ := liftM reply

/-- The transport with a log of every request, in the order in which they were sent. -/
def logged {σ : Type} (transport : Transport (StateM σ)) : Transport (StateM (σ × List Sent)) where
  send address request := ExceptT.mk fun (state, log) =>
    let (reply, state) := (transport.send address request).start state
    (reply, state, log ++ [⟨address, request⟩])

end Transport

end Keyspace
