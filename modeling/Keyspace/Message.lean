/-
# Messages

A request is one call of a server, and every request has a verb: what is asked, free
of what it is asked about. Verbs have endpoints, requests and responses have verbs.
Whatever its verb, a request may also be answered with a report of a failure.
-/

import Keyspace.Assignment
import Keyspace.KvError

namespace Keyspace

/-- What a request asks for. -/
inductive Verb where
  | get
  | put
  | append
  | delete
  | multiGet
  | multiPut
  | allKeys
  | query
  | move
deriving DecidableEq, Repr

namespace Verb

/-- All verbs. -/
def all : List Verb := [get, put, append, delete, multiGet, multiPut, allKeys, query, move]

/-- The path that requests of the verb are posted to. -/
def endpoint : Verb → String
  | get => "/kv/get"
  | put => "/kv/put"
  | append => "/kv/append"
  | delete => "/kv/delete"
  | multiGet => "/kv/multiget"
  | multiPut => "/kv/multiput"
  | allKeys => "/kv/allkeys"
  | query => "/ctrl/query"
  | move => "/ctrl/move"

/-- The kind of server that requests of a verb are for. -/
inductive Role where
  | storage
  | controller
deriving DecidableEq, Repr

/-- Queries and moves are for the controller, all else is for storage servers. -/
def role : Verb → Role
  | query | move => .controller
  | _ => .storage

/-- The verb that a path belongs to, among those for servers of `role`. -/
def ofPath? (role : Role) (path : String) : Option Verb :=
  all.find? fun verb => verb.role = role ∧ verb.endpoint = path

/-- No verb is left out. -/
theorem mem_all (verb : Verb) : verb ∈ all := by cases verb <;> decide

/-- Different verbs have different endpoints. -/
theorem endpoint_injective {v w : Verb} (h : v.endpoint = w.endpoint) : v = w := by
  revert h; cases v <;> cases w <;> decide

end Verb

/-- A call of a storage server or of the controller. -/
inductive Request where
  | get (key : String)
  | put (key value : String)
  | append (key value : String)
  | delete (key : String)
  | multiGet (keys : List String)
  | multiPut (keys values : List String)
  | allKeys
  | query
  | move (destination : String) (shards : List Shard)
deriving DecidableEq, Repr

/-- What a request asks for. -/
def Request.verb : Request → Verb
  | get _ => .get
  | put _ _ => .put
  | append _ _ => .append
  | delete _ => .delete
  | multiGet _ => .multiGet
  | multiPut _ _ => .multiPut
  | allKeys => .allKeys
  | query => .query
  | move _ _ => .move

/-- The path that a request is posted to. -/
def Request.endpoint (request : Request) : String := request.verb.endpoint

/-- The category of a failure that a server reports. -/
inductive ErrorKind where
  | notFound
  | validation
  | internal
deriving DecidableEq, Repr

/-- A failure as a server reports it. The key is the absent one, where one is absent. -/
structure ErrorReport where
  kind : ErrorKind
  message : String
  key : Option String
deriving DecidableEq, Repr

/-- How a server reports a failure. -/
def ErrorReport.ofError (e : KvError) : ErrorReport :=
  match e with
  | .notFound key => ⟨.notFound, e.message, some key⟩
  | .validation _ => ⟨.validation, e.message, none⟩
  | _ => ⟨.internal, e.message, none⟩

/-- What a server answers with: the result of a request of some verb, or a failure. -/
inductive Response where
  | get (value : String)
  | put
  | append
  | delete (value : String)
  | multiGet (values : List String)
  | multiPut
  | allKeys (keys : List String)
  | query (assignment : Assignment)
  | move
  | error (report : ErrorReport)
deriving DecidableEq

/-- The verb that a response answers; none if it reports a failure. -/
def Response.verb? : Response → Option Verb
  | get _ => some .get
  | put => some .put
  | append => some .append
  | delete _ => some .delete
  | multiGet _ => some .multiGet
  | multiPut => some .multiPut
  | allKeys _ => some .allKeys
  | query _ => some .query
  | move => some .move
  | error _ => none

end Keyspace
