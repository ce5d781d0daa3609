/-
# Buckets

A bucket store spreads its keys over a fixed number of buckets, each behind a lock of
its own. A hash of the key decides its bucket, so that a key is only ever looked for in
one place. The hash is part of the store: nothing about buckets depends on which
function it is.
-/

import Keyspace.Digest
import Keyspace.Store.Basic
import Keyspace.Store.Lock

namespace Keyspace

/-- The number of buckets where none is given. -/
def defaultBucketCount : Nat := 256

/-- The hash that spreads keys over buckets. It is seeded, so that the keys of one shard do not
crowd into few buckets. -/
def bucketHash (key : String) : UInt64 := digest 0x6b7673746f726531 key.toUTF8

/-- A bucket behind its lock. -/
structure Slot where
  items : Contents
  lock : Lock
deriving DecidableEq

/-- Buckets behind their locks, and the hash that spreads keys over them. -/
structure BucketStore where
  hash : String → UInt64
  slots : Array Slot

namespace BucketStore

/-- A store of `count` empty buckets. Memory is taken to be there for any number of buckets: that a
number may be too great to allocate is not modelled. -/
def ofCount (hash : String → UInt64) (count : Nat) : Except Fault BucketStore :=
  if count = 0 then .error .noBuckets
  else .ok ⟨hash, Array.replicate count ⟨∅, .free⟩⟩

/-- The number of buckets. -/
def size (store : BucketStore) : Nat := store.slots.size

/-- The bucket that a key belongs to. -/
def indexOf (store : BucketStore) (key : String) : Nat :=
  (store.hash key).toNat % store.size

/-- Whether the lock of a bucket can be had at once. -/
def available (store : BucketStore) (access : Access) (index : Nat) : Except Fault Bool :=
  match store.slots[index]? with
  | none => .error (.outOfBounds store.size index)
  | some slot => .ok (slot.lock.available access)

/-- The store with a slot replaced. -/
def modifySlot (store : BucketStore) (index : Nat) (change : Slot → Slot) : BucketStore :=
  { store with slots := store.slots.modify index change }

/-- Takes the lock of a bucket. -/
def take (access : Access) (index : Nat) : Action BucketStore Unit := do
  let store ← get
  match store.slots[index]? with
  | none => Action.crash (.outOfBounds store.size index)
  | some slot =>
    match slot.lock.acquire? access with
    | none => Action.crash (.blocked index)
    | some lock => set (store.modifySlot index ({ · with lock }))

/-- Gives the lock of a bucket back. -/
def giveBack (access : Access) (index : Nat) (store : BucketStore) : BucketStore :=
  store.modifySlot index fun slot => { slot with lock := slot.lock.release access }

/-- All that the buckets hold. -/
def contents (store : BucketStore) : Contents :=
  store.slots.foldl (fun all slot => all.insertMany slot.items.toList) ∅

/-- The number of keys in every bucket. -/
def bucketSizes (store : BucketStore) : List Nat :=
  store.slots.toList.map fun slot => slot.items.size

end BucketStore

end Keyspace
