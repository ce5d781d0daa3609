/-
# Engines

The two kinds of store that a storage server can run on, behind one type.
-/

import Keyspace.Store.Flat
import Keyspace.Store.Striped

namespace Keyspace

/-- The kind of store that a storage server runs on. -/
inductive EngineKind where
  /-- One lock for each bucket. -/
  | striped
  /-- One lock for the whole store. -/
  | simple
deriving DecidableEq, Repr

/-- A store of either kind. -/
inductive Engine where
  | striped (store : BucketStore)
  | simple (store : FlatStore)

namespace Engine

/-- An engine without keys. Only a striped engine has buckets. -/
def ofKind (kind : EngineKind) (buckets : Nat) : Except Fault Engine :=
  match kind with
  | .striped => striped <$> BucketStore.ofCount bucketHash buckets
  | .simple => .ok (simple FlatStore.empty)

/-- Performs an action that every store can perform. -/
def perform {α : Type} (action : (σ : Type) → [KvStore σ] → Action σ α) : Action Engine α :=
  Action.ofStart fun
    | striped store =>
      let (outcome, store) := (action BucketStore).start store
      (outcome, striped store)
    | simple store =>
      let (outcome, store) := (action FlatStore).start store
      (outcome, simple store)

end Engine

instance : KvStore Engine where
  get key := Engine.perform fun _ => KvStore.get key
  put key value := Engine.perform fun _ => KvStore.put key value
  append key value := Engine.perform fun _ => KvStore.append key value
  delete key := Engine.perform fun _ => KvStore.delete key
  multiGet keys := Engine.perform fun _ => KvStore.multiGet keys
  multiPut keys values := Engine.perform fun _ => KvStore.multiPut keys values
  allKeys := Engine.perform fun _ => KvStore.allKeys
  len := Engine.perform fun _ => KvStore.len
  contents
    | .striped store => KvStore.contents store
    | .simple store => KvStore.contents store

end Keyspace
