/-
# Key-value stores

A store is anything on which the operations of a storage server can be performed. An
operation is an action on the state of the store: it may change the state, and it ends
with a result, is refused, or crashes. A refusal is an answer to the caller. A crash is
a fault of the store itself, and the theory of stores has to show that it never
happens.
-/

import Std.Data.ExtTreeMap
import Keyspace.KvError

namespace Keyspace

/-- What a store holds: the value of every key that is there. -/
abbrev Contents := Std.ExtTreeMap String String

namespace Contents

/-- The contents after `value` was appended to the value of `key`, which starts out empty. -/
def append (items : Contents) (key value : String) : Contents :=
  items.insert key (items.getD key "" ++ value)

/-- The value of a key that must be there. -/
def lookup (items : Contents) (key : String) : KvResult String :=
  match items[key]? with
  | some value => .ok value
  | none => .error (.notFound key)

end Contents

/-- What is wrong with a store that crashes. -/
inductive Fault where
  /-- A store without buckets was asked for. -/
  | noBuckets
  /-- There are only `length` buckets, or locks that are held, numbered from zero. -/
  | outOfBounds (length index : Nat)
  /-- A bucket was used through a set of locks that does not hold it. -/
  | notLocked (index : Nat)
  /-- A lock was asked for that whoever asks would have to give up first. -/
  | blocked (index : Nat)
deriving DecidableEq, Repr

/-- The text of a crash. -/
def Fault.message : Fault → String
  | .noBuckets => "bucket count must be positive"
  | .outOfBounds length index =>
    s!"index out of bounds: the len is {length} but the index is {index}"
  | .notLocked index => s!"bucket {index} is not locked by this set"
  | .blocked index => s!"bucket {index} is locked by its own caller"

/-- Why an action ended without a result. -/
inductive Failure where
  | refused (error : KvError)
  | crashed (fault : Fault)
deriving DecidableEq, Repr

/-- An action on a state. The state it leaves behind is there also if it fails. -/
abbrev Action (σ : Type) := ExceptT Failure (StateM σ)

namespace Action

variable {σ α : Type}

/-- The outcome of an action started in `state`, and the state it leaves behind. -/
def start (action : Action σ α) (state : σ) : Except Failure α × σ :=
  (ExceptT.run action).run state

/-- Ends as a function of the state says. -/
def ofStart (run : σ → Except Failure α × σ) : Action σ α := ExceptT.mk run

/-- Ends with a refusal. -/
def refuse (error : KvError) : Action σ α := throw (.refused error)

/-- Ends with a crash. -/
def crash (fault : Fault) : Action σ α := throw (.crashed fault)

/-- The result, unless it is a failure. -/
def ofResult : KvResult α → Action σ α
  | .ok value => pure value
  | .error error => refuse error

/-- Performs the action and then, however it ended, changes the state. -/
def ensuring (action : Action σ α) (change : σ → σ) : Action σ α :=
  ofStart fun state =>
    let (outcome, state) := action.start state
    (outcome, change state)

/-- Performs the action and changes the state only if it failed. -/
def onFailure (action : Action σ α) (change : σ → σ) : Action σ α :=
  ofStart fun state =>
    match action.start state with
    | (.ok value, state) => (.ok value, state)
    | (.error failure, state) => (.error failure, change state)

/-- Performs the action and hands a crash back as a result. -/
def caught (action : Action σ α) : Action σ (Except Fault α) :=
  ofStart fun state =>
    match action.start state with
    | (.ok value, state) => (.ok (.ok value), state)
    | (.error (.crashed fault), state) => (.ok (.error fault), state)
    | (.error (.refused error), state) => (.error (.refused error), state)

end Action

/-- The operations of a storage server. -/
class KvStore (σ : Type) where
  /-- The value of a key. -/
  get : String → Action σ String
  /-- Gives a key a value, whether it had one or not. -/
  put : String → String → Action σ Unit
  /-- Appends to the value of a key; a key that is absent counts as empty. -/
  append : String → String → Action σ Unit
  /-- Removes a key and returns the value it had. -/
  delete : String → Action σ String
  /-- The values of all keys, in their order. One absent key fails the whole. -/
  multiGet : List String → Action σ (List String)
  /-- Gives every key the value at its position. Lists of different lengths are refused before
  anything is changed. -/
  multiPut : List String → List String → Action σ Unit
  /-- Every key, in no particular order. -/
  allKeys : Action σ (List String)
  /-- The number of keys. -/
  len : Action σ Nat
  /-- What a store holds, seen from outside. -/
  contents : σ → Contents

/-- One call of a store. -/
inductive Operation where
  | get (key : String)
  | put (key value : String)
  | append (key value : String)
  | delete (key : String)
  | multiGet (keys : List String)
  | multiPut (keys values : List String)
  | allKeys
  | len
  | isEmpty
deriving DecidableEq, Repr

/-- What a call of a store returns. -/
inductive Answer where
  | done
  | value (value : String)
  | values (values : List String)
  | keys (keys : List String)
  | count (count : Nat)
  | truth (truth : Bool)
deriving DecidableEq, Repr

/-- Performs a call. -/
def Operation.perform {σ : Type} [KvStore σ] : Operation → Action σ Answer
  | get key => .value <$> KvStore.get key
  | put key value => (fun () => .done) <$> KvStore.put key value
  | append key value => (fun () => .done) <$> KvStore.append key value
  | delete key => .value <$> KvStore.delete key
  | multiGet keys => .values <$> KvStore.multiGet keys
  | multiPut keys values => (fun () => .done) <$> KvStore.multiPut keys values
  | allKeys => .keys <$> KvStore.allKeys
  | len => .count <$> KvStore.len
  | isEmpty => (fun count => .truth (count = 0)) <$> KvStore.len

end Keyspace
