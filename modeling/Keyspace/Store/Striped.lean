/-
# The striped store

A store of many buckets, each behind its own lock. An operation on one key locks only
the bucket of that key; operations on different buckets never wait for each other. An
operation on several keys locks all their buckets before it touches any, and an
operation on everything locks every bucket. Reading shares the locks, writing has them
for itself; appending holds its lock across both the read and the write.
-/

import Keyspace.Store.LockSet

namespace Keyspace

namespace BucketStore

/-- Looks a key up in a bucket that the set holds. -/
def lookup (set : LockSet) (key : String) (index : Nat) : Action BucketStore String := do
  Action.ofResult ((← set.items index).lookup key)

/-- The value of a key, under the shared lock of its bucket. -/
def get (key : String) : Action BucketStore String := do
  let index := (← MonadState.get).indexOf key
  holding .shared [index] fun set => lookup set key index

/-- Gives a key a value, under the exclusive lock of its bucket. -/
def put (key value : String) : Action BucketStore Unit := do
  let index := (← MonadState.get).indexOf key
  holding .exclusive [index] fun set => set.change index (·.insert key value)

/-- Appends to a value, under the exclusive lock of its bucket. -/
def append (key value : String) : Action BucketStore Unit := do
  let index := (← MonadState.get).indexOf key
  holding .exclusive [index] fun set => do
    let old := (← set.items index).getD key ""
    set.change index (·.insert key (old ++ value))

/-- Removes a key, under the exclusive lock of its bucket. -/
def delete (key : String) : Action BucketStore String := do
  let index := (← MonadState.get).indexOf key
  holding .exclusive [index] fun set => do
    let value ← lookup set key index
    set.change index (·.erase key)
    pure value

/-- Reads several keys, under the shared locks of all their buckets. -/
def multiGet (keys : List String) : Action BucketStore (List String) := do
  let store ← MonadState.get
  let indices := keys.map store.indexOf
  holding .shared indices fun set =>
    (keys.zip indices).mapM fun (key, index) => lookup set key index

/-- Writes several keys, under the exclusive locks of all their buckets. -/
def multiPut (keys values : List String) : Action BucketStore Unit := do
  if keys.length = values.length then
    let store ← MonadState.get
    let indices := keys.map store.indexOf
    holding .exclusive indices fun set =>
      ((keys.zip values).zip indices).forM fun ((key, value), index) =>
        set.change index (·.insert key value)
  else
    Action.refuse (.lengthMismatch keys.length values.length)

/-- Every key, bucket by bucket, under the shared locks of all buckets. -/
def allKeys : Action BucketStore (List String) :=
  holdingEvery .shared fun set => do
    let buckets ← set.held.toList.mapM set.items
    pure (buckets.flatMap (·.keys))

/-- The number of keys, under the shared locks of all buckets. -/
def len : Action BucketStore Nat :=
  holdingEvery .shared fun set => do
    let buckets ← set.held.toList.mapM set.items
    pure (buckets.foldl (fun count items => count + items.size) 0)

end BucketStore

instance : KvStore BucketStore where
  get := BucketStore.get
  put := BucketStore.put
  append := BucketStore.append
  delete := BucketStore.delete
  multiGet := BucketStore.multiGet
  multiPut := BucketStore.multiPut
  allKeys := BucketStore.allKeys
  len := BucketStore.len
  contents := BucketStore.contents

end Keyspace
