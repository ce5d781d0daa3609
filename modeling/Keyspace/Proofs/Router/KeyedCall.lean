/-
# Calls by key

The calls that a router, a client of one server and a single store have in common: those
that name the keys they are about. A run of such calls shows what every one of them
returned.
-/

import Keyspace.Router
import Keyspace.Store.Basic

namespace Keyspace

/-- A call that names its keys. -/
inductive KeyedCall where
  | get (key : String)
  | put (key value : String)
  | append (key value : String)
  | delete (key : String)
  | multiGet (keys : List String)
  | multiPut (keys values : List String)
deriving DecidableEq, Repr

namespace KeyedCall

/-- The keys that a call is about. -/
def keys : KeyedCall → List String
  | get key | put key _ | append key _ | delete key => [key]
  | multiGet keys | multiPut keys _ => keys

/-- The call of a store. -/
def operation : KeyedCall → Operation
  | get key => .get key
  | put key value => .put key value
  | append key value => .append key value
  | delete key => .delete key
  | multiGet keys => .multiGet keys
  | multiPut keys values => .multiPut keys values

/-- The call of a router. -/
def route {m : Type → Type} [Monad m] (router : Router m) : KeyedCall → Call m Answer
  | get key => .value <$> router.get key
  | put key value => (fun () => .done) <$> router.put key value
  | append key value => (fun () => .done) <$> router.append key value
  | delete key => .value <$> router.delete key
  | multiGet keys => .values <$> router.multiGet keys
  | multiPut keys values => (fun () => .done) <$> router.multiPut keys values

/-- The call of a client of one server. -/
def ask {m : Type → Type} [Monad m] (client : Client m) : KeyedCall → Call m Answer
  | get key => .value <$> client.get key
  | put key value => (fun () => .done) <$> client.put key value
  | append key value => (fun () => .done) <$> client.append key value
  | delete key => .value <$> client.delete key
  | multiGet keys => .values <$> client.multiGet keys
  | multiPut keys values => (fun () => .done) <$> client.multiPut keys values

/-- The request that stands for the call. -/
def request : KeyedCall → Request
  | get key => .get key
  | put key value => .put key value
  | append key value => .append key value
  | delete key => .delete key
  | multiGet keys => .multiGet keys
  | multiPut keys values => .multiPut keys values

/-- What a run of calls of a router shows: every call, with what it returned. -/
def trace {σ : Type} (router : Router (StateM σ)) :
    List KeyedCall → σ → List (KeyedCall × KvResult Answer)
  | [], _ => []
  | call :: calls, s =>
    let (outcome, t) := (call.route router).start s
    (call, outcome) :: trace router calls t

end KeyedCall

end Keyspace
