/-
# Clients of one server

A client sends every call as exactly one request to its server and turns the response
back into a typed result.
-/

import Keyspace.Message.Form
import Keyspace.Transport

namespace Keyspace

/-- A client of the server at an address. -/
structure Client (m : Type → Type) where
  server : String
  transport : Transport m

namespace Client

variable {m : Type → Type} [Monad m] (client : Client m)

omit [Monad m] in
/-- The failure that a report stands for. `subject` names the keys of the request, for a report
that does not say which key is absent. -/
def reported (report : ErrorReport) (subject : String) : KvError :=
  match report.kind with
  | .notFound => .notFound (report.key.getD subject)
  | .validation => .validation report.message
  | .internal => .remote client.server report.message

/-- Sends a request and fails if the server reports a failure. -/
def call (request : Request) (subject : String) : Call m Response := do
  match ← client.transport.send client.server request with
  | .error report => throw (client.reported report subject)
  | response => pure response

/-- Fails because of a response of the wrong kind. -/
def unexpected {α : Type} (operation : String) (response : Response) : Call m α :=
  throw (.unexpectedReply client.server operation response.inspect)

/-- The text that names several keys. -/
def subjectOf (keys : List String) : String := ",".intercalate keys

/-- The value of a key. -/
def get (key : String) : Call m String := do
  match ← client.call (.get key) key with
  | .get value => pure value
  | other => client.unexpected "get" other

/-- Gives a key a value. -/
def put (key value : String) : Call m Unit := do
  match ← client.call (.put key value) key with
  | .put => pure ()
  | other => client.unexpected "put" other

/-- Appends to the value of a key. -/
def append (key value : String) : Call m Unit := do
  match ← client.call (.append key value) key with
  | .append => pure ()
  | other => client.unexpected "append" other

/-- Removes a key and returns the value it had. -/
def delete (key : String) : Call m String := do
  match ← client.call (.delete key) key with
  | .delete value => pure value
  | other => client.unexpected "delete" other

/-- The values of several keys, in their order. There must be one for each key. -/
def multiGet (keys : List String) : Call m (List String) := do
  match ← client.call (.multiGet keys) (subjectOf keys) with
  | .multiGet values =>
    if values.length = keys.length then pure values
    else throw (.valueCount client.server values.length keys.length)
  | other => client.unexpected "multi_get" other

/-- Gives every key the value at its position. -/
def multiPut (keys values : List String) : Call m Unit := do
  match ← client.call (.multiPut keys values) (subjectOf keys) with
  | .multiPut => pure ()
  | other => client.unexpected "multi_put" other

/-- Every key that the server holds, in no particular order. -/
def allKeys : Call m (List String) := do
  match ← client.call .allKeys "" with
  | .allKeys keys => pure keys
  | other => client.unexpected "all_keys" other

end Client

end Keyspace
