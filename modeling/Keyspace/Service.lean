/-
# Services

A service answers requests. Storage servers and the controller are services for the
verbs of their role; a request of another verb they do not serve at all. A refusal
reaches the caller as a report.
-/

import Keyspace.Controller
import Keyspace.Message
import Keyspace.Store.Engine

namespace Keyspace

/-- A server that answers the requests whose verb belongs to its role. -/
class Service (σ : Type) where
  role : Verb.Role
  serve? : Request → Option (Action σ Response)

/-- How a store answers the requests for storage servers. -/
def serveStorage? {σ : Type} [KvStore σ] : Request → Option (Action σ Response)
  | .get key => some (.get <$> KvStore.get key)
  | .put key value => some ((fun () => .put) <$> KvStore.put key value)
  | .append key value => some ((fun () => .append) <$> KvStore.append key value)
  | .delete key => some (.delete <$> KvStore.delete key)
  | .multiGet keys => some (.multiGet <$> KvStore.multiGet keys)
  | .multiPut keys values => some ((fun () => .multiPut) <$> KvStore.multiPut keys values)
  | .allKeys => some (.allKeys <$> KvStore.allKeys)
  | .query | .move _ _ => none

instance {σ : Type} [KvStore σ] : Service σ where
  role := .storage
  serve? := serveStorage?

/-- How the controller answers the requests for it. -/
def Controller.serve? : Request → Option (Action Controller Response)
  | .query => some (.query <$> Controller.query)
  | .move destination shards => some ((fun () => .move) <$> Controller.move destination shards)
  | _ => none

instance : Service Controller where
  role := .controller
  serve? := Controller.serve?

/-- The response with a refusal turned into a report. -/
def Action.reported {σ : Type} (action : Action σ Response) : Action σ Response :=
  tryCatch action fun
    | .refused error => pure (.error (.ofError error))
    | .crashed fault => Action.crash fault

/-- A store answers a request exactly if its verb is one for storage servers. -/
theorem serveStorage?_isSome {σ : Type} [KvStore σ] (request : Request) :
    (serveStorage? (σ := σ) request).isSome ↔ request.verb.role = .storage := by
  cases request <;> simp [serveStorage?, Request.verb, Verb.role]

/-- The controller answers a request exactly if its verb is one for it. -/
theorem Controller.serve?_isSome (request : Request) :
    (Controller.serve? request).isSome ↔ request.verb.role = .controller := by
  cases request <;> simp [Controller.serve?, Request.verb, Verb.role]

end Keyspace
