/-
# While a set of locks is held, and after

While a set of locks is held, the buckets that were asked for can be used through it, and
their locks keep others out: all others if the set has the buckets for itself, and those
who want to write if it shares them. No other bucket is touched. Whatever is done with
the set, also where it crashes, every lock is free again in the end. If a bucket is asked
for that is not there, the set never comes about: the first such bucket ends the taking
of locks, and those taken before it are given back.
-/

import Mathlib
import Keyspace.Proofs.Store.Placement

namespace Keyspace

/-- What can be done while a set of locks is held. -/
inductive LockUse where
  /-- Looks a bucket up in the set and reads it. -/
  | read (index : Nat)
  /-- Looks a bucket up in the set and writes a key in it. -/
  | insert (index : Nat) (key value : String)
  /-- Tries to have the lock of a bucket beside the set. -/
  | tryLock (wanted : Access) (index : Nat)
deriving DecidableEq, Repr

namespace LockUse

/-- What a use of a set gives. -/
inductive Outcome where
  | items (items : Contents)
  | inserted
  | tried (available : Bool)
deriving DecidableEq

/-- Uses a set. -/
def perform (set : LockSet) : LockUse → Action BucketStore Outcome
  | read index => .items <$> set.items index
  | insert index key value => (fun () => .inserted) <$> set.change index (·.insert key value)
  | tryLock wanted index => do
    match (← get).available wanted index with
    | .ok available => pure (.tried available)
    | .error fault => Action.crash fault

/-- Uses a set again and again, past every crash, and then a last time. -/
def performAll (earlier : List LockUse) (last : LockUse) (set : LockSet) :
    Action BucketStore Outcome := do
  earlier.forM fun use => discard (use.perform set).caught
  last.perform set

/-- What a set for `indices` has to give. A bucket that was not asked for is not in it. The lock of
a bucket that was asked for can only be shared, and only with a set that shares it. -/
def expected (access : Access) (indices : List Nat) (store : BucketStore) :
    LockUse → Except Fault Outcome
  | read index =>
    if index ∈ indices then .ok (.items (store.bucket index)) else .error (.notLocked index)
  | insert index _ _ => if index ∈ indices then .ok .inserted else .error (.notLocked index)
  | tryLock wanted index =>
    if index < store.size then
      .ok (.tried (index ∈ indices → access = .shared ∧ wanted = .shared))
    else .error (.outOfBounds store.size index)

/-- What a use writes in a bucket that its set has. -/
def write (index : Nat) (items : Contents) : LockUse → Contents
  | read _ => items
  | insert other key value => if other = index then items.insert key value else items
  | tryLock _ _ => items

/-- The store without its locks after a set for `indices` was used. -/
def after (indices : List Nat) (store : BucketStore) : LockUse → BucketStore
  | read _ => store
  | insert index key value =>
    if index ∈ indices then store.modifyBucket index (·.insert key value) else store
  | tryLock _ _ => store

end LockUse

/-- What is left of a store after a set for `indices` was put to some uses: the locks are free, and
the contents differ by what was written in buckets of the set. -/
structure BucketStore.Leaves (indices : List Nat) (uses : List LockUse)
    (store later : BucketStore) : Prop where
  idle : later.Idle
  hash_eq : later.hash = store.hash
  size_eq : later.size = store.size
  bucket_eq : ∀ index, later.bucket index =
    if index ∈ indices then uses.foldl (LockUse.write index) (store.bucket index)
    else store.bucket index

/-- Of a held lock no more can be had than another share of it. -/
theorem Lock.available_held (access wanted : Access) :
    access.held.available wanted = (access = .shared ∧ wanted = .shared : Bool) := by
  cases access <;> cases wanted <;> rfl

theorem Lock.available_free (wanted : Access) : Lock.free.available wanted = true := by
  cases wanted <;> rfl

namespace BucketStore

variable {store : BucketStore} {access wanted : Access} {index bad : Nat}
  {indices before rest : List Nat}

/-! ## One use -/

/-- A bucket that was not asked for cannot be read. -/
theorem start_items_of_not_mem (h : index ∉ indices) :
    (LockSet.items ⟨access, (lockOrder indices).toArray⟩ index).start store =
      (.error (.crashed (.notLocked index)), store) := by
  rw [LockSet.items, LockSet.bucket_eq_crash access h]
  rfl

/-- Nor can it be changed. -/
theorem start_change_of_not_mem (h : index ∉ indices) (change : Contents → Contents) :
    (LockSet.change ⟨access, (lockOrder indices).toArray⟩ index change).start store =
      (.error (.crashed (.notLocked index)), store) := by
  rw [LockSet.change, LockSet.bucket_eq_crash access h]
  rfl

/-- A lock can be had unless the set has it, or else if both only share it. -/
theorem available_lockAll (hidle : store.Idle) (hbound : index < store.size) :
    (store.lockAll access (lockOrder indices)).available wanted index =
      .ok (index ∈ indices → access = .shared ∧ wanted = .shared : Bool) := by
  obtain ⟨slot, hslot, hfree⟩ := hidle.exists_slot hbound
  rw [available, getElem?_lockAll (nodup_lockOrder indices), hslot, Option.map_some]
  by_cases hmem : index ∈ indices
  · simp [mem_lockOrder, hmem, Lock.available_held]
  · simp [mem_lockOrder, hmem, hfree, Lock.available_free]

theorem available_eq_error (hbound : store.size ≤ index) :
    store.available wanted index = .error (.outOfBounds store.size index) := by
  rw [available, Array.getElem?_eq_none hbound]

/-- A use under locks gives what it has to, and does to the store without them what it has to. -/
theorem start_perform (hidle : store.Idle) (hbound : ∀ index ∈ indices, index < store.size)
    (use : LockUse) :
    (use.perform ⟨access, (lockOrder indices).toArray⟩).start
        (store.lockAll access (lockOrder indices)) =
      ((use.expected access indices store).mapError .crashed,
        (use.after indices store).lockAll access (lockOrder indices)) := by
  cases use with
  | read index =>
      rw [LockUse.perform, LockUse.expected, LockUse.after, Action.start_map]
      by_cases hmem : index ∈ indices
      · rw [start_items hmem (hbound index hmem), if_pos hmem]
        rfl
      · rw [start_items_of_not_mem hmem, if_neg hmem]
        rfl
  | insert index key value =>
      rw [LockUse.perform, LockUse.expected, LockUse.after, Action.start_map]
      by_cases hmem : index ∈ indices
      · rw [start_change hmem, if_pos hmem, if_pos hmem]
        rfl
      · rw [start_change_of_not_mem hmem, if_neg hmem, if_neg hmem]
        rfl
  | tryLock wanted index =>
      rw [LockUse.perform, LockUse.expected, LockUse.after, Action.start_bind_ok Action.start_get]
      by_cases hlt : index < store.size
      · rw [available_lockAll hidle hlt, if_pos hlt]
        rfl
      · have hsize : (store.lockAll access (lockOrder indices)).size = store.size :=
          size_lockAll _
        have hout : (store.lockAll access (lockOrder indices)).size ≤ index := by omega
        rw [available_eq_error hout, if_neg hlt, hsize]
        rfl

/-! ## Many uses -/

/-- A use takes no lock for good and keeps the hash and the number of buckets. -/
theorem Idle.after (hidle : store.Idle) (use : LockUse) :
    (use.after indices store).Idle ∧ (use.after indices store).hash = store.hash ∧
      (use.after indices store).size = store.size := by
  cases use with
  | read index => exact ⟨hidle, rfl, rfl⟩
  | insert index key value =>
      rw [LockUse.after]
      split_ifs
      · exact ⟨hidle.modifyBucket, rfl, size_modifySlot _⟩
      · exact ⟨hidle, rfl, rfl⟩
  | tryLock wanted index => exact ⟨hidle, rfl, rfl⟩

/-- A use writes in no bucket but those of the set. -/
theorem bucket_after (hbound : ∀ index ∈ indices, index < store.size) (use : LockUse)
    (index : Nat) :
    (use.after indices store).bucket index =
      if index ∈ indices then use.write index (store.bucket index) else store.bucket index := by
  cases use with
  | read other => exact (ite_self _).symm
  | tryLock wanted other => exact (ite_self _).symm
  | insert other key value =>
      rw [LockUse.after, LockUse.write]
      by_cases hother : other ∈ indices
      · rw [if_pos hother, bucket_modifyBucket (hbound other hother)]
        by_cases heq : other = index
        · rw [if_pos heq, if_pos (heq ▸ hother)]
        · rw [if_neg heq, ite_self]
      · rw [if_neg hother]
        split_ifs with hindex heq
        · exact absurd (heq ▸ hindex) hother
        · rfl
        · rfl

/-- What is left after all uses, one after another. -/
theorem leaves_foldl (hidle : store.Idle) (hbound : ∀ index ∈ indices, index < store.size)
    (uses : List LockUse) :
    Leaves indices uses store (uses.foldl (LockUse.after indices) store) := by
  induction uses generalizing store with
  | nil => exact ⟨hidle, rfl, rfl, fun index => (ite_self _).symm⟩
  | cons use uses ih =>
      obtain ⟨hidle', hhash, hsize⟩ := hidle.after use
      have hrest := ih hidle' (hsize ▸ hbound)
      refine ⟨hrest.idle, hrest.hash_eq.trans hhash, hrest.size_eq.trans hsize, fun index => ?_⟩
      rw [List.foldl_cons, hrest.bucket_eq, bucket_after hbound]
      split_ifs
      · rfl
      · rfl

/-- Crashes that are caught do not keep a set from its next use. -/
theorem start_performAll (hidle : store.Idle) (hbound : ∀ index ∈ indices, index < store.size)
    (earlier : List LockUse) (last : LockUse) :
    (LockUse.performAll earlier last ⟨access, (lockOrder indices).toArray⟩).start
        (store.lockAll access (lockOrder indices)) =
      ((last.expected access indices (earlier.foldl (LockUse.after indices) store)).mapError
          .crashed,
        ((earlier ++ [last]).foldl (LockUse.after indices) store).lockAll access
          (lockOrder indices)) := by
  induction earlier generalizing store with
  | nil => exact start_perform hidle hbound last
  | cons use earlier ih =>
      obtain ⟨hidle', -, hsize⟩ := hidle.after use
      have hdiscard : (discard
          (use.perform ⟨access, (lockOrder indices).toArray⟩).caught).start
            (store.lockAll access (lockOrder indices)) =
          (.ok ⟨⟩, (use.after indices store).lockAll access (lockOrder indices)) := by
        refine (Action.start_map (fun _ => PUnit.unit) _).trans ?_
        rw [Action.start_caught (start_perform hidle hbound use)]
        rfl
      rw [LockUse.performAll, List.forM_eq_forM, List.forM_cons, bind_assoc,
        Action.start_bind_ok hdiscard]
      exact ih hidle' (hsize ▸ hbound)

/-! ## Buckets that are not there -/

/-- Giving a lock back undoes taking it. -/
theorem giveBack_modifySlot {slot : Slot} (hslot : store.slots[index]? = some slot)
    (hfree : slot.lock = .free) :
    (store.modifySlot index ({ · with lock := access.held })).giveBack access index = store := by
  refine ext_slots rfl fun other => ?_
  rw [giveBack, getElem?_modifySlot, getElem?_modifySlot, Option.map_map]
  by_cases heq : index = other
  · subst heq
    simp [hslot, Lock.release_held, ← hfree]
  · simp [heq, Function.comp_def]

/-- Where a bucket is not there, the locks taken before are given back. -/
theorem start_takeAll_of_missing (hnodup : before.Nodup)
    (hfree : ∀ index ∈ before, ∃ slot, store.slots[index]? = some slot ∧ slot.lock = .free)
    (hbad : store.size ≤ bad) :
    (takeAll access (before ++ bad :: rest)).start store =
      (.error (.crashed (.outOfBounds store.size bad)), store) := by
  induction before generalizing store with
  | nil =>
      refine Action.start_bind_error ?_ _
      rw [take, Action.start_bind_ok Action.start_get, Array.getElem?_eq_none hbad]
      rfl
  | cons first before ih =>
      obtain ⟨hfirst, hothers⟩ := List.nodup_cons.mp hnodup
      rw [List.forall_mem_cons] at hfree
      obtain ⟨⟨slot, hslot, hlock⟩, hfree⟩ := hfree
      have hsize : (store.modifySlot first ({ · with lock := access.held })).size = store.size :=
        size_modifySlot _
      have hrest : (takeAll access (before ++ bad :: rest)).start
          (store.modifySlot first ({ · with lock := access.held })) =
            (.error (.crashed (.outOfBounds store.size bad)),
              store.modifySlot first ({ · with lock := access.held })) := by
        rw [← hsize]
        exact ih hothers (forall_free_modifySlot hfirst hfree) (hsize ▸ hbad)
      rw [List.cons_append, takeAll, Action.start_bind_ok (start_take hslot hlock),
        Action.start_onFailure_error hrest, giveBack_modifySlot hslot hlock]

/-- Where a bucket that was asked for is not there, no set comes about and nothing is changed. -/
theorem start_holding_of_missing {α : Type} (hidle : store.Idle)
    (hleast : IsLeast {index | index ∈ indices ∧ store.size ≤ index} bad)
    (body : LockSet → Action BucketStore α) :
    (holding access indices body).start store =
      (.error (.crashed (.outOfBounds store.size bad)), store) := by
  obtain ⟨⟨hmem, hbad⟩, hfirst⟩ := hleast
  obtain ⟨before, rest, horder⟩ := List.append_of_mem (mem_lockOrder.mpr hmem)
  have hascending := pairwise_lockOrder indices
  rw [horder, List.pairwise_append] at hascending
  have hfree : ∀ index ∈ before, ∃ slot, store.slots[index]? = some slot ∧ slot.lock = .free := by
    intro index hindex
    -- It comes before the smallest index that is not there.
    have hless : index < bad := hascending.2.2 index hindex bad List.mem_cons_self
    refine hidle.exists_slot (Nat.lt_of_not_le fun hout => ?_)
    have hasked : index ∈ indices := by
      rw [← mem_lockOrder, horder]
      exact List.mem_append_left _ hindex
    exact absurd (hfirst ⟨hasked, hout⟩) (Nat.not_le_of_lt hless)
  rw [holding, horder]
  exact Action.start_bind_error
    (start_takeAll_of_missing (hascending.1.imp Nat.ne_of_lt) hfree hbad) _

/-- On a store whose locks are free a set of locks gives, at every moment and after whatever it was
used for before, the buckets that were asked for and no others, and keeps others from their locks
and from no other locks. When it is gone, also through a crash, all locks are free and the buckets
have what was written in them through the set. Where a bucket that was asked for is not there, the
smallest such index is reported, and the store is as before. -/
theorem lock_sets_exact_and_released (hidle : store.Idle) (access : Access)
    (indices : List Nat) :
    ((∀ index ∈ indices, index < store.size) →
      ∀ earlier last, ∃ reached later,
        (holding access indices (LockUse.performAll earlier last)).start store =
          ((last.expected access indices reached).mapError .crashed, later) ∧
        Leaves indices earlier store reached ∧ Leaves indices (earlier ++ [last]) store later) ∧
    ((∃ index ∈ indices, store.size ≤ index) →
      ∃ bad, IsLeast {index | index ∈ indices ∧ store.size ≤ index} bad ∧
        ∀ (α : Type) (body : LockSet → Action BucketStore α),
          (holding access indices body).start store =
            (.error (.crashed (.outOfBounds store.size bad)), store)) := by
  constructor
  · intro hbound earlier last
    have hlater := leaves_foldl hidle hbound (earlier ++ [last])
    exact ⟨_, _, start_holding hidle hbound (start_performAll hidle hbound earlier last)
      hlater.idle, leaves_foldl hidle hbound earlier, hlater⟩
  · intro hmissing
    have hleast : IsLeast {index | index ∈ indices ∧ store.size ≤ index} (Nat.find hmissing) :=
      ⟨Nat.find_spec hmissing, fun _ hother => Nat.find_min' hmissing hother⟩
    exact ⟨_, hleast, fun _ body => start_holding_of_missing hidle hleast body⟩

/-- Three buckets, of which the last and the first are written to before a lookup of the one between
them crashes; a lock that is shared cannot be had for writing; and of two buckets that are not there
the nearer one is named. -/
theorem lock_sets_exact_and_released_three :
    let store : BucketStore := ⟨fun _ => 0, #[⟨∅, .free⟩, ⟨∅, .free⟩, ⟨∅, .free⟩]⟩
    store.Idle ∧
    (∃ later, (holding .exclusive [2, 0, 2]
        (LockUse.performAll [.insert 2 "k" "v", .read 1, .insert 0 "l" "w"] (.read 1))).start
            store = (.error (.crashed (.notLocked 1)), later) ∧
        later.Idle ∧ later.bucket 2 = (∅ : Contents).insert "k" "v" ∧ later.bucket 1 = ∅) ∧
    (∃ later, (holding .shared [1, 1]
        (LockUse.performAll [.tryLock .shared 1] (.tryLock .exclusive 1))).start store =
          (.ok (.tried false), later) ∧ later.Idle) ∧
    (holding .shared [1, 7, 0, 5] (LockUse.performAll [] (.read 1))).start store =
      (.error (.crashed (.outOfBounds 3 5)), store) := by
  intro store
  have hidle : store.Idle := by
    intro slot hslot
    simp only [store, List.mem_toArray, List.mem_cons, List.not_mem_nil, or_false, or_self] at hslot
    rw [hslot]
  refine ⟨hidle, ?_, ?_, ?_⟩
  · obtain ⟨reached, later, hrun, -, hlater⟩ :=
      (lock_sets_exact_and_released hidle .exclusive [2, 0, 2]).1 (by decide)
        [.insert 2 "k" "v", .read 1, .insert 0 "l" "w"] (.read 1)
    exact ⟨later, hrun, hlater.idle, hlater.bucket_eq 2, hlater.bucket_eq 1⟩
  · obtain ⟨reached, later, hrun, hreached, hlater⟩ :=
      (lock_sets_exact_and_released hidle .shared [1, 1]).1 (by decide)
        [.tryLock .shared 1] (.tryLock .exclusive 1)
    refine ⟨later, hrun.trans ?_, hlater.idle⟩
    have hlt : 1 < reached.size := by
      rw [hreached.size_eq]
      decide
    rw [LockUse.expected, if_pos hlt]
    rfl
  · obtain ⟨bad, ⟨⟨hmem, hbad⟩, hfirst⟩, hruns⟩ :=
      (lock_sets_exact_and_released hidle .shared [1, 7, 0, 5]).2 ⟨7, by decide⟩
    have hle : bad ≤ 5 := hfirst (show 5 ∈ [1, 7, 0, 5] ∧ 3 ≤ 5 by decide)
    have hge : 3 ≤ bad := hbad
    have hfive : bad = 5 := by
      simp only [List.mem_cons, List.not_mem_nil, or_false] at hmem
      omega
    rw [hruns, hfive]
    rfl

end BucketStore

end Keyspace
