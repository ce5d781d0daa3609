/-
# Failures of key-value operations

Every failure is handed back to the immediate caller; nothing retries. A failure
carries the text of its reason. The reasons that this library gives itself are named
here, so that a statement about failures never quotes their wording.
-/

import Keyspace.Shard.Text
import Keyspace.Text.Inspect

namespace Keyspace

/-- Failure of a key-value operation. -/
inductive KvError where
  /-- The key is absent. -/
  | notFound (key : String)
  /-- The request was refused before anything was changed. -/
  | validation (reason : String)
  /-- The controller could not be asked, or no server owns a key. -/
  | routing (reason : String)
  /-- A server refused its part or answered nonsense. -/
  | remote (server reason : String)
  /-- The exchange with a peer failed. -/
  | transport (address reason : String)
deriving DecidableEq, Repr

/-- The outcome of a key-value operation. -/
abbrev KvResult := Except KvError

namespace KvError

/-- The text of a failure. -/
def message : KvError → String
  | notFound key => "key not found: " ++ key
  | validation reason => "validation failed: " ++ reason
  | routing reason => "routing failed: " ++ reason
  | remote server reason => "request to " ++ server ++ " failed: " ++ reason
  | transport address reason => "transport to " ++ address ++ " failed: " ++ reason

instance : ToString KvError := ⟨message⟩

/-- The failure is that a key is absent. -/
def isNotFound : KvError → Bool
  | notFound _ => true
  | _ => false

/-- The failure with its structure. -/
def inspect : KvError → String
  | notFound key => record "NotFound" [("key", key)]
  | validation reason => record "Validation" [("reason", reason)]
  | routing reason => record "Routing" [("reason", reason)]
  | remote server reason => record "Remote" [("server", server), ("reason", reason)]
  | transport address reason => record "Transport" [("addr", address), ("reason", reason)]
where
  record (name : String) (fields : List (String × String)) : String :=
    Text.inspectRecord name (fields.map fun (field, text) => (field, Text.inspect text))

/-- A write of several pairs got lists of different lengths. -/
def lengthMismatch (keys values : Nat) : KvError :=
  validation s!"multi_put got {keys} keys but {values} values"

/-- A shard with its bounds out of order was to be moved. -/
def malformedShard (s : Shard) : KvError := validation ("malformed shard " ++ s.toText)

/-- Shards were to be moved to a server that the controller does not know. -/
def unknownDestination (server : String) : KvError :=
  validation ("unknown destination server " ++ server)

/-- No server owns a key. -/
def unowned (key : String) : KvError := routing ("no server owns key " ++ key)

/-- The exchange with the controller failed. -/
def controllerUnreachable (cause : KvError) : KvError :=
  routing ("controller unreachable: " ++ cause.message)

/-- The controller answered a query with a failure. -/
def queryRefused (reason : String) : KvError := routing ("controller refused query: " ++ reason)

/-- The controller answered a query with a response of another kind. -/
def unexpectedController (response : String) : KvError :=
  routing ("unexpected controller reply: " ++ response)

/-- A peer answered an operation with a response of another kind. -/
def unexpectedReply (server operation response : String) : KvError :=
  remote server ("unexpected reply to " ++ operation ++ ": " ++ response)

/-- A server answered a read of several keys with another number of values. -/
def valueCount (server : String) (values keys : Nat) : KvError :=
  remote server s!"multi_get returned {values} values for {keys} keys"

end KvError

end Keyspace
