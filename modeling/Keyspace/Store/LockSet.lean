/-
# Sets of locks

An operation that needs several buckets takes all their locks before it touches any,
each of them once and in ascending order of the buckets. Two operations that need the
same buckets therefore always meet at the same one first, and no circle of operations
waiting for each other can close.

`holding` is the only way to hold locks: it takes them, hands out the set, and gives
every lock back, however the operation ended. The set knows which buckets it holds; a
bucket is looked up in it by halving, which finds every bucket of an ascending list, and
what is read or changed is the bucket at the position that was found.
-/

import Keyspace.Store.Bucket

namespace Keyspace

/-- Puts an index into an ascending list, unless it is there already. -/
def insertIndex (index : Nat) : List Nat → List Nat
  | [] => [index]
  | other :: rest =>
    if index < other then index :: other :: rest
    else if index = other then other :: rest
    else other :: insertIndex index rest

/-- The indices in the order in which their locks are taken: ascending, each of them once. -/
def lockOrder (indices : List Nat) : List Nat := indices.foldr insertIndex []

/-- Locks that are held, in ascending order of their buckets. -/
structure LockSet where
  access : Access
  held : Array Nat
deriving DecidableEq, Repr

namespace LockSet

/-- Looks for `index` between the positions `low` and `high`, of which the latter is excluded. -/
def search (held : Array Nat) (index low high : Nat) : Option Nat :=
  if low < high then
    let middle := (low + high) / 2
    match held[middle]? with
    | none => none
    | some found =>
      if found = index then some middle
      else if found < index then search held index (middle + 1) high
      else search held index low middle
  else none
termination_by high - low

/-- The position of a bucket in the set. -/
def position? (set : LockSet) (index : Nat) : Option Nat := search set.held index 0 set.held.size

/-- The bucket whose lock is held at the position that is found for `index`. -/
def bucket (set : LockSet) (index : Nat) : Action BucketStore Nat :=
  match set.position? index with
  | none => Action.crash (.notLocked index)
  | some position =>
    match set.held[position]? with
    | none => Action.crash (.outOfBounds set.held.size position)
    | some bucket => pure bucket

/-- The contents of a bucket that the set holds. -/
def items (set : LockSet) (index : Nat) : Action BucketStore Contents := do
  let bucket ← set.bucket index
  let store ← get
  match store.slots[bucket]? with
  | none => Action.crash (.outOfBounds store.size bucket)
  | some slot => pure slot.items

/-- Changes the contents of a bucket that the set holds. -/
def change (set : LockSet) (index : Nat) (change : Contents → Contents) :
    Action BucketStore Unit := do
  let bucket ← set.bucket index
  modify fun store => store.modifySlot bucket fun slot => { slot with items := change slot.items }

end LockSet

namespace BucketStore

/-- Takes locks one after another. If one of them cannot be had, those already taken are given
back. -/
def takeAll (access : Access) : List Nat → Action BucketStore Unit
  | [] => pure ()
  | index :: rest => do
    take access index
    (takeAll access rest).onFailure (giveBack access index)

/-- Gives locks back. -/
def giveBackAll (access : Access) (indices : List Nat) (store : BucketStore) : BucketStore :=
  indices.foldl (fun store index => store.giveBack access index) store

/-- Performs `body` while the locks of all `indices` are held. -/
def holding {α : Type} (access : Access) (indices : List Nat)
    (body : LockSet → Action BucketStore α) : Action BucketStore α := do
  let order := lockOrder indices
  takeAll access order
  (body ⟨access, order.toArray⟩).ensuring (giveBackAll access order)

/-- Performs `body` while all locks are held. -/
def holdingEvery {α : Type} (access : Access) (body : LockSet → Action BucketStore α) :
    Action BucketStore α := do
  holding access (List.range (← get).size) body

end BucketStore

end Keyspace
