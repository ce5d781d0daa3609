/-
# The router

A router makes a cluster of storage servers look like a single key-value service. Every
operation asks the controller for the assignment first, finds the owners of its keys,
and sends each owner one request. What was done stays done, also if the operation fails.

The requests of an operation on several keys are under way together, and they are sent and
polled in the ascending order of the names of the owners. Where every reply is there at once,
this comes to sending them one after another and stopping at the first that fails. Where
replies are put off, the operation fails as the first request that is seen to fail, and the
others are given up.
-/

import Keyspace.Attempt
import Keyspace.Client

namespace Keyspace

/-- A router that asks the controller at an address. -/
structure Router (m : Type → Type) where
  controller : String
  transport : Transport m

namespace Router

variable {m : Type → Type} [Monad m] (router : Router m)

omit [Monad m] in
/-- A client of one of the servers. -/
def client (server : String) : Client m := ⟨server, router.transport⟩

/-- Sends a request to the controller. -/
def ask (request : Request) : Call m Response :=
  tryCatch (router.transport.send router.controller request) fun error =>
    throw (.controllerUnreachable error)

/-- The current assignment. -/
def query : Call m Assignment := do
  match ← router.ask .query with
  | .query assignment => pure assignment
  | .error report => throw (.queryRefused report.message)
  | other => throw (.unexpectedController other.inspect)

/-- The owner of a key that must have one. -/
def ownerOf (assignment : Assignment) (key : String) : KvResult String :=
  match assignment.serverOf? key with
  | some server => .ok server
  | none => .error (.unowned key)

/-- A client of the owner of a key. -/
def clientFor (key : String) : Call m (Client m) := do
  let server ← ownerOf (← router.query) key
  pure (router.client server)

/-- The value of a key, from its owner. -/
def get (key : String) : Call m String := do
  (← router.clientFor key).get key

/-- Gives a key a value, at its owner. -/
def put (key value : String) : Call m Unit := do
  (← router.clientFor key).put key value

/-- Appends to the value of a key, at its owner. -/
def append (key value : String) : Call m Unit := do
  (← router.clientFor key).append key value

/-- Removes a key from its owner and returns the value it had. -/
def delete (key : String) : Call m String := do
  (← router.clientFor key).delete key

/-- What one server owns of a list: the items with their positions, in their order. -/
structure Batch (α : Type) where
  server : String
  items : List (α × Nat)

/-- The items of a list by the owners of their keys. There is a batch for every owner, in the
ascending order of their names. A key without an owner fails the whole, the first one named. -/
def batches {α : Type} (assignment : Assignment) (key : α → String) (items : List α) :
    KvResult (List (Batch α)) := do
  let owners ← items.mapM fun item => ownerOf assignment (key item)
  let owned := owners.zip items.zipIdx
  let batch (server : String) : Batch α :=
    ⟨server, (owned.filter fun (owner, _) => owner = server).map (·.2)⟩
  return (assignment.names.map batch).filter fun batch => !batch.items.isEmpty

/-- A list of `length` texts with the given ones at their positions. -/
def scatter (length : Nat) (placed : List (Nat × String)) : List String :=
  placed.foldl (fun out (position, text) => out.set position text) (List.replicate length "")

/-- Reads a batch at its server: the values of its keys, each with the position of the key. -/
def readBatch (batch : Batch String) : Call m (List (Nat × String)) := do
  let values ← (router.client batch.server).multiGet (batch.items.map (·.1))
  pure ((batch.items.map (·.2)).zip values)

/-- Writes a batch at its server. -/
def writeBatch (batch : Batch (String × String)) : Call m Unit :=
  (router.client batch.server).multiPut (batch.items.map (·.1.1)) (batch.items.map (·.1.2))

/-- The values of several keys, in their order, where every reply is there at once. -/
def multiGet (keys : List String) : Call m (List String) := do
  let batches ← batches (← router.query) id keys
  let parts ← batches.mapM router.readBatch
  pure (scatter keys.length parts.flatten)

/-- Gives every key the value at its position, where every reply is there at once. -/
def multiPut (keys values : List String) : Call m Unit := do
  if keys.length = values.length then
    let batches ← batches (← router.query) (·.1) (keys.zip values)
    batches.forM router.writeBatch
  else
    throw (.lengthMismatch keys.length values.length)

/-- Asks the controller to give shards to a server. -/
def move (destination : String) (shards : List Shard) : Call m Unit := do
  match ← router.ask (.move destination shards) with
  | .move => pure ()
  | .error report => throw (.remote router.controller report.message)
  | other => throw (.unexpectedReply router.controller "move" other.inspect)

/-! ## Replies that may be put off -/

section Within

variable (patience : Nat) (router : Router (OptionT m))

/-- The values of several keys, in their order, where replies may be put off: all batches are read
together. -/
def multiGetWithin (keys : List String) : Attempt m (List String) := do
  let batches ← batches (← Attempt.await patience router.query) id keys
  let parts ← Attempt.joinAll patience (batches.map router.readBatch)
  pure (scatter keys.length parts.flatten)

/-- Gives every key the value at its position, where replies may be put off: all batches are
written together. -/
def multiPutWithin (keys values : List String) : Attempt m Unit := do
  if keys.length = values.length then
    let batches ← batches (← Attempt.await patience router.query) (·.1) (keys.zip values)
    discard (Attempt.joinAll patience (batches.map router.writeBatch))
  else
    throw (.lengthMismatch keys.length values.length)

end Within

end Router

end Keyspace
