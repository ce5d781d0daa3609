/-
# Working under locks

On a store whose locks nobody holds, an operation that asks for existing buckets gets
their locks, does its work, and gives every lock back. Work under locks is followed on
the store without the locks: reading a bucket of the set returns what that bucket holds,
changing one changes it there, and neither sees who holds what.
-/

import Mathlib
import Keyspace.Proofs.Store.Action
import Keyspace.Proofs.Store.LockOrder

namespace Keyspace

/-- A lock that has one holder, who uses it this way. -/
def Access.held : Access → Lock
  | .shared => .shared 1
  | .exclusive => .exclusive

theorem Lock.acquire?_free (access : Access) : Lock.free.acquire? access = some access.held := by
  cases access <;> rfl

theorem Lock.release_held (access : Access) : access.held.release access = Lock.free :=
  release_of_acquire (acquire?_free access)

namespace BucketStore

variable {store : BucketStore} {access : Access} {index other : Nat} {order indices : List Nat}

/-- Nobody holds a lock of the store. -/
def Idle (store : BucketStore) : Prop := ∀ slot ∈ store.slots, slot.lock = .free

/-- What a bucket holds; nothing if there is no such bucket. -/
def bucket (store : BucketStore) (index : Nat) : Contents :=
  ((store.slots[index]?).map (·.items)).getD ∅

/-- The store with the contents of a bucket changed. -/
def modifyBucket (store : BucketStore) (index : Nat) (change : Contents → Contents) :
    BucketStore :=
  store.modifySlot index fun slot => { slot with items := change slot.items }

/-- The store with the locks of some buckets held. -/
def lockAll (access : Access) (order : List Nat) (store : BucketStore) : BucketStore :=
  order.foldl (fun store index => store.modifySlot index ({ · with lock := access.held })) store

/-- Stores with the same hash and the same slots are the same. -/
theorem ext_slots {first second : BucketStore} (hhash : first.hash = second.hash)
    (hslots : ∀ index : Nat, first.slots[index]? = second.slots[index]?) : first = second := by
  obtain ⟨hash, slots⟩ := first
  obtain ⟨hash', slots'⟩ := second
  obtain rfl : hash = hash' := hhash
  obtain rfl : slots = slots' := Array.ext_getElem? hslots
  rfl

theorem getElem?_modifySlot (change : Slot → Slot) :
    (store.modifySlot index change).slots[other]? =
      (store.slots[other]?).map fun slot => if index = other then change slot else slot := by
  show (store.slots.modify index change)[other]? = _
  rw [Array.getElem?_modify]
  split_ifs <;> simp

theorem size_modifySlot (change : Slot → Slot) :
    (store.modifySlot index change).size = store.size :=
  Array.size_modify

/-- Changing slots one after another, each of them once, changes each of them. -/
theorem getElem?_foldl_modifySlot (change : Slot → Slot) (hnodup : order.Nodup) :
    (order.foldl (fun store index => store.modifySlot index change) store).slots[other]? =
      (store.slots[other]?).map fun slot => if other ∈ order then change slot else slot := by
  induction order generalizing store with
  | nil => simp
  | cons first rest ih =>
      obtain ⟨hfirst, hrest⟩ := List.nodup_cons.mp hnodup
      rw [List.foldl_cons, ih hrest, getElem?_modifySlot, Option.map_map]
      congr 1
      funext slot
      by_cases heq : first = other
      · subst heq
        simp [hfirst]
      · simp [heq, Ne.symm heq]

theorem hash_foldl_modifySlot (change : Slot → Slot) (order : List Nat) :
    (order.foldl (fun store index => store.modifySlot index change) store).hash = store.hash := by
  induction order generalizing store with
  | nil => rfl
  | cons first rest ih => exact ih

theorem hash_lockAll (order : List Nat) : (store.lockAll access order).hash = store.hash :=
  hash_foldl_modifySlot _ order

theorem size_lockAll (order : List Nat) : (store.lockAll access order).size = store.size := by
  induction order generalizing store with
  | nil => rfl
  | cons first rest ih => exact ih.trans (size_modifySlot _)

theorem getElem?_lockAll (hnodup : order.Nodup) :
    (store.lockAll access order).slots[other]? =
      (store.slots[other]?).map fun slot =>
        if other ∈ order then { slot with lock := access.held } else slot :=
  getElem?_foldl_modifySlot _ hnodup

/-! ## Taking locks and giving them back -/

/-- Every bucket of an idle store is there, with its lock free. -/
theorem Idle.exists_slot (hidle : store.Idle) (h : index < store.size) :
    ∃ slot, store.slots[index]? = some slot ∧ slot.lock = .free :=
  ⟨_, Array.getElem?_eq_getElem h, hidle _ (Array.getElem_mem h)⟩

/-- The locks of other buckets stay free. -/
theorem forall_free_modifySlot {change : Slot → Slot} (hindex : index ∉ order)
    (hfree : ∀ other ∈ order, ∃ slot, store.slots[other]? = some slot ∧ slot.lock = .free) :
    ∀ other ∈ order, ∃ slot,
      (store.modifySlot index change).slots[other]? = some slot ∧ slot.lock = .free := by
  intro other hother
  obtain ⟨slot, hslot, hlock⟩ := hfree other hother
  have hne : index ≠ other := fun heq => hindex (heq ▸ hother)
  exact ⟨slot, by rw [getElem?_modifySlot, hslot]; simp [hne], hlock⟩

/-- A free lock of an existing bucket is there for the taking. -/
theorem start_take {slot : Slot} (hslot : store.slots[index]? = some slot)
    (hfree : slot.lock = .free) :
    (take access index).start store =
      (.ok (), store.modifySlot index ({ · with lock := access.held })) := by
  rw [take, Action.start_bind_ok Action.start_get, hslot]
  simp only [hfree, Lock.acquire?_free]
  rfl

/-- Free locks of different existing buckets are there for the taking. -/
theorem start_takeAll (hnodup : order.Nodup)
    (hfree : ∀ index ∈ order, ∃ slot, store.slots[index]? = some slot ∧ slot.lock = .free) :
    (takeAll access order).start store = (.ok (), store.lockAll access order) := by
  induction order generalizing store with
  | nil => rfl
  | cons first rest ih =>
      obtain ⟨hfirst, hrest⟩ := List.nodup_cons.mp hnodup
      rw [List.forall_mem_cons] at hfree
      obtain ⟨⟨slot, hslot, hlock⟩, hothers⟩ := hfree
      rw [takeAll, Action.start_bind_ok (start_take hslot hlock)]
      exact Action.start_onFailure_ok (ih hrest (forall_free_modifySlot hfirst hothers)) _

/-- Giving all locks back undoes taking them. -/
theorem giveBackAll_lockAll (hidle : store.Idle) (hnodup : order.Nodup) :
    giveBackAll access order (store.lockAll access order) = store := by
  refine ext_slots ?_ fun index => ?_
  · exact (hash_foldl_modifySlot _ order).trans (hash_lockAll order)
  · refine (getElem?_foldl_modifySlot _ hnodup).trans ?_
    rw [getElem?_lockAll hnodup]
    cases hslot : store.slots[index]? with
    | none => rfl
    | some slot =>
        have hfree := hidle slot (Array.mem_of_getElem? hslot)
        by_cases hmem : index ∈ order
        · simp [hmem, Lock.release_held, ← hfree]
        · simp [hmem]

/-- Work under locks, followed on the store without them. -/
theorem start_holding {α : Type} {body : LockSet → Action BucketStore α}
    {outcome : Except Failure α} {after : BucketStore} (hidle : store.Idle)
    (hbound : ∀ index ∈ indices, index < store.size)
    (hbody : (body ⟨access, (lockOrder indices).toArray⟩).start
        (store.lockAll access (lockOrder indices)) =
      (outcome, after.lockAll access (lockOrder indices)))
    (hafter : after.Idle) :
    (holding access indices body).start store = (outcome, after) := by
  have hnodup := nodup_lockOrder indices
  have htake : (takeAll access (lockOrder indices)).start store =
      (.ok (), store.lockAll access (lockOrder indices)) := by
    apply start_takeAll hnodup
    intro index hindex
    exact hidle.exists_slot (hbound index (mem_lockOrder.mp hindex))
  rw [holding, Action.start_bind_ok htake, Action.start_ensuring hbody,
    giveBackAll_lockAll hafter hnodup]

/-! ## Reading and changing buckets of a set -/

/-- The set returns what a bucket that it holds has in it. -/
theorem start_items (hlocked : index ∈ indices) (hbound : index < store.size) :
    (LockSet.items ⟨access, (lockOrder indices).toArray⟩ index).start
        (store.lockAll access (lockOrder indices)) =
      (.ok (store.bucket index), store.lockAll access (lockOrder indices)) := by
  have hindex : store.slots[index]? = some store.slots[index] := Array.getElem?_eq_getElem hbound
  have hslot : (store.lockAll access (lockOrder indices)).slots[index]? =
      some { store.slots[index] with lock := access.held } := by
    rw [getElem?_lockAll (nodup_lockOrder indices), hindex, Option.map_some,
      if_pos (mem_lockOrder.mpr hlocked)]
  rw [LockSet.items, LockSet.bucket_eq_pure access hlocked, pure_bind,
    Action.start_bind_ok Action.start_get, hslot, bucket, hindex]
  rfl

/-- Changing a bucket that the set holds changes it in the store. -/
theorem start_change (hlocked : index ∈ indices) (change : Contents → Contents) :
    (LockSet.change ⟨access, (lockOrder indices).toArray⟩ index change).start
        (store.lockAll access (lockOrder indices)) =
      (.ok (), (store.modifyBucket index change).lockAll access (lockOrder indices)) := by
  have hnodup := nodup_lockOrder indices
  rw [LockSet.change, LockSet.bucket_eq_pure access hlocked, pure_bind, Action.start_modify]
  congr 1
  refine ext_slots ?_ fun other => ?_
  · have hchanged : ((store.modifyBucket index change).lockAll access (lockOrder indices)).hash =
        store.hash := hash_lockAll _
    exact (hash_lockAll _).trans hchanged.symm
  · rw [getElem?_modifySlot, getElem?_lockAll hnodup, getElem?_lockAll hnodup, modifyBucket,
      getElem?_modifySlot, Option.map_map, Option.map_map]
    congr 1
    funext slot
    by_cases heq : index = other <;> by_cases hmem : other ∈ lockOrder indices <;>
      simp [heq, hmem]

end BucketStore

end Keyspace
