/-
# Callers at work at the same time

Callers come to a store at any time, each with a job, and none waits for another to
leave before it starts. A caller takes the locks of its job one by one, in their order;
it keeps what it has while it waits for the next. Once it has them all, it does its work
and gives them back together. A job that names a bucket that does not exist ends there,
and what it has taken is given back as well.

A lock is had as soon as nobody holds it in a way that stands against it. A store may
also make those who want to share a lock wait behind a caller that is in line to have it
for itself. Whether and when a caller gets in line is left open.
-/

import Mathlib
import Keyspace.Proofs.Store.Job

namespace Keyspace

/-! ## Who holds a lock -/

namespace Lock

variable {lock held : Lock} {access : Access} {holders after : Access → Nat}

/-- The lock says how many hold it for each use. -/
def HeldBy : Lock → (Access → Nat) → Prop
  | shared count, holders => holders .shared = count ∧ holders .exclusive = 0
  | exclusive, holders => holders .shared = 0 ∧ holders .exclusive = 1

/-- Who acquires a lock is one holder more. -/
theorem HeldBy.acquire (h : lock.HeldBy holders) (hacquire : lock.acquire? access = some held)
    (hafter : ∀ other, after other = holders other + if other = access then 1 else 0) :
    held.HeldBy after := by
  rcases access with _ | _ <;> rcases lock with (_ | count) | _ <;> cases hacquire <;>
    simp [HeldBy, hafter] at h ⊢ <;> omega

/-- Who releases a lock is one holder less. -/
theorem HeldBy.release (h : lock.HeldBy holders)
    (hafter : ∀ other, after other + (if other = access then 1 else 0) = holders other) :
    (lock.release access).HeldBy after := by
  have hshared := hafter .shared
  have hexclusive := hafter .exclusive
  rcases access with _ | _ <;> rcases lock with count | _ <;>
    simp [HeldBy, Lock.release, Lock.free] at h hshared hexclusive ⊢ <;> omega

/-- A lock lets someone in exactly if all who hold it share it and whoever comes would, too. -/
theorem HeldBy.isSome_acquire?_iff (h : lock.HeldBy holders) :
    (lock.acquire? access).isSome ↔ ∀ use, 0 < holders use → access = .shared ∧ use = .shared := by
  have hforall : (∀ use, 0 < holders use → access = .shared ∧ use = .shared) ↔
      (0 < holders .shared → access = .shared) ∧ holders .exclusive = 0 := by
    constructor
    · intro hall
      refine ⟨fun hpos => (hall _ hpos).1, Nat.eq_zero_of_not_pos fun hpos => ?_⟩
      exact nomatch (hall _ hpos).2
    · rintro ⟨hshared, hexclusive⟩ (_ | _) hpos
      · exact ⟨hshared hpos, rfl⟩
      · omega
  rw [hforall]
  rcases access with _ | _ <;> rcases lock with (_ | count) | _ <;>
    simp [HeldBy, Lock.acquire?] at h ⊢ <;> omega

end Lock

/-! ## Callers -/

/-- How far a caller is. -/
inductive Stage where
  /-- It has taken this many locks. It may be in line for the next. -/
  | locking (taken : Nat) (queued : Bool)
  | gone
deriving DecidableEq

/-- A call in progress. -/
structure Caller where
  job : Job
  stage : Stage

namespace Caller

variable {caller : Caller} {index other : Nat}

/-- The buckets whose locks a caller holds. -/
def held (caller : Caller) : List Nat :=
  match caller.stage with
  | .locking taken _ => caller.job.order.take taken
  | .gone => []

/-- The bucket whose lock a caller wants next. -/
def next? (caller : Caller) : Option Nat :=
  match caller.stage with
  | .locking taken _ => caller.job.order[taken]?
  | .gone => none

/-- The bucket for whose lock a caller is in line. -/
def queuedFor? (caller : Caller) : Option Nat :=
  match caller.stage with
  | .locking taken true => caller.job.order[taken]?
  | _ => none

/-- Whether a caller holds the lock of a bucket for this use. -/
def holds (index : Nat) (access : Access) (caller : Caller) : Bool :=
  decide (access = caller.job.access ∧ index ∈ caller.held)

theorem holds_eq_true_iff {access : Access} :
    caller.holds index access = true ↔ access = caller.job.access ∧ index ∈ caller.held := by
  simp [holds]

/-- A caller wants no lock below one that it holds, nor one that it holds. -/
theorem lt_of_mem_held (hnext : caller.next? = some index) (hheld : other ∈ caller.held) :
    other < index := by
  obtain ⟨job, stage⟩ := caller
  cases stage with
  | gone => cases hnext
  | locking taken queued => exact Job.lt_of_mem_take hnext hheld

/-- Who is in line for a lock wants it. -/
theorem next?_of_queuedFor? (h : caller.queuedFor? = some index) : caller.next? = some index := by
  obtain ⟨job, stage⟩ := caller
  rcases stage with ⟨taken, _ | _⟩ | _
  · cases h
  · exact h
  · cases h

/-- Who wants a lock has not left yet. -/
theorem stage_ne_gone_of_next? (h : caller.next? = some index) : caller.stage ≠ .gone := by
  obtain ⟨job, _ | _⟩ := caller
  · exact Stage.noConfusion
  · cases h

/-- Who holds a lock has not left yet. -/
theorem stage_ne_gone_of_mem_held (h : index ∈ caller.held) : caller.stage ≠ .gone := by
  obtain ⟨job, _ | _⟩ := caller
  · exact Stage.noConfusion
  · cases h

/-- Who has taken one lock more holds that one too. -/
theorem mem_held_succ {job : Job} {taken : Nat} (queued now : Bool)
    (hnext : job.order[taken]? = some index) :
    other ∈ held ⟨job, .locking (taken + 1) now⟩ ↔
      other ∈ held ⟨job, .locking taken queued⟩ ∨ other = index := by
  simp [held, List.take_add_one, hnext]

end Caller

/-- A store and its callers. -/
structure Crowd where
  store : BucketStore
  callers : List Caller

/-- Whom a store lets have a lock first. -/
inductive Policy where
  /-- Whoever comes while it is available. -/
  | byAvailability
  /-- Whoever waits to have it for themselves; others share it only if nobody does. -/
  | exclusiveFirst
deriving DecidableEq

namespace Crowd

/-- How many callers hold the lock of a bucket for a use. -/
def holders (crowd : Crowd) (index : Nat) (access : Access) : Nat :=
  crowd.callers.countP (·.holds index access)

/-- Those who want to share the lock of this bucket wait behind someone in line for it. -/
def Yields (crowd : Crowd) (policy : Policy) (access : Access) (index : Nat) : Prop :=
  policy = .exclusiveFirst ∧ access = .shared ∧
    ∃ other ∈ crowd.callers, other.job.access = .exclusive ∧ other.queuedFor? = some index

instance {crowd : Crowd} {policy : Policy} {access : Access} {index : Nat} :
    Decidable (crowd.Yields policy access index) :=
  inferInstanceAs (Decidable (policy = .exclusiveFirst ∧ access = .shared ∧
    ∃ other ∈ crowd.callers, other.job.access = .exclusive ∧ other.queuedFor? = some index))

/-- The caller at a position gets on with its job. -/
inductive Advance (policy : Policy) (crowd : Crowd) (i : Nat) : Crowd → Prop where
  /-- It takes the next lock. -/
  | take {job : Job} {taken index : Nat} {queued : Bool} {after : BucketStore}
      (hcaller : crowd.callers[i]? = some ⟨job, .locking taken queued⟩)
      (hnext : job.order[taken]? = some index)
      (hyields : ¬ crowd.Yields policy job.access index)
      (htake : (BucketStore.take job.access index).start crowd.store = (.ok (), after)) :
      Advance policy crowd i ⟨after, crowd.callers.set i ⟨job, .locking (taken + 1) false⟩⟩
  /-- The next bucket does not exist. -/
  | abort {job : Job} {taken index length : Nat} {queued : Bool} {after : BucketStore}
      (hcaller : crowd.callers[i]? = some ⟨job, .locking taken queued⟩)
      (hnext : job.order[taken]? = some index)
      (htake : (BucketStore.take job.access index).start crowd.store =
        (.error (.crashed (.outOfBounds length index)), after)) :
      Advance policy crowd i
        ⟨after.giveBackAll job.access (job.order.take taken), crowd.callers.set i ⟨job, .gone⟩⟩
  /-- It has all locks, does its work, and gives them back. -/
  | finish {job : Job} {taken : Nat} {queued : Bool}
      (hcaller : crowd.callers[i]? = some ⟨job, .locking taken queued⟩)
      (hnext : job.order[taken]? = none) :
      Advance policy crowd i
        ⟨(((job.work ⟨job.access, job.order.toArray⟩).ensuring
            (BucketStore.giveBackAll job.access job.order)).start crowd.store).2,
          crowd.callers.set i ⟨job, .gone⟩⟩

/-- Anything that happens: a caller comes, gets in line, or gets on with its job. -/
inductive Step (policy : Policy) (crowd : Crowd) : Crowd → Prop where
  | arrive (job : Job) :
      Step policy crowd ⟨crowd.store, crowd.callers ++ [⟨job, .locking 0 false⟩]⟩
  | queue {i : Nat} {job : Job} {taken : Nat}
      (hcaller : crowd.callers[i]? = some ⟨job, .locking taken false⟩) :
      Step policy crowd ⟨crowd.store, crowd.callers.set i ⟨job, .locking taken true⟩⟩
  | advance {i : Nat} {next : Crowd} (h : Advance policy crowd i next) : Step policy crowd next

/-- The locks of the store say who of the callers holds them. -/
def Accounted (crowd : Crowd) : Prop :=
  ∀ index lock, crowd.store.lockAt index = some lock → lock.HeldBy (crowd.holders index)

end Crowd

/-! ## Locks of the store -/

namespace BucketStore

variable {store after : BucketStore} {access : Access} {index other : Nat} {lock : Lock}
  {order : List Nat}

theorem lockAt_eq_none_iff : store.lockAt index = none ↔ store.size ≤ index := by
  rw [lockAt, Option.map_eq_none_iff, Array.getElem?_eq_none_iff, size]

/-- Nobody gets the lock of a bucket that does not exist. -/
theorem start_take_of_none (h : store.lockAt index = none) :
    (take access index).start store =
      (.error (.crashed (.outOfBounds store.size index)), store) := by
  rw [lockAt, Option.map_eq_none_iff] at h
  rw [take, Action.start_bind_ok Action.start_get, h]
  rfl

/-- Nobody gets a lock that does not let them in. -/
theorem start_take_of_blocked (h : store.lockAt index = some lock)
    (hacquire : lock.acquire? access = none) :
    (take access index).start store = (.error (.crashed (.blocked index)), store) := by
  obtain ⟨slot, hslot, rfl⟩ := Option.map_eq_some_iff.mp h
  rw [take, Action.start_bind_ok Action.start_get, hslot]
  simp only [hacquire]
  rfl

/-- Whoever a lock lets in gets it. -/
theorem start_take_of_acquire {held : Lock} (h : store.lockAt index = some lock)
    (hacquire : lock.acquire? access = some held) :
    (take access index).start store =
      (.ok (), store.modifySlot index ({ · with lock := held })) := by
  obtain ⟨slot, hslot, rfl⟩ := Option.map_eq_some_iff.mp h
  rw [take, Action.start_bind_ok Action.start_get, hslot]
  simp only [hacquire]
  rfl

/-- Taking a lock changes that lock only. -/
theorem lockAt_of_take (h : (take access index).start store = (.ok (), after)) :
    ∃ lock held, store.lockAt index = some lock ∧ lock.acquire? access = some held ∧
      after.lockAt index = some held ∧
      ∀ other, other ≠ index → after.lockAt other = store.lockAt other := by
  cases hlock : store.lockAt index with
  | none => rw [start_take_of_none hlock] at h; cases h
  | some lock =>
      cases hacquire : lock.acquire? access with
      | none => rw [start_take_of_blocked hlock hacquire] at h; cases h
      | some held =>
          rw [start_take_of_acquire hlock hacquire] at h
          cases h
          obtain ⟨slot, hslot, rfl⟩ := Option.map_eq_some_iff.mp hlock
          refine ⟨slot.lock, held, rfl, hacquire, ?_, fun other hne => ?_⟩
          · rw [lockAt, getElem?_modifySlot, hslot]
            simp
          · rw [lockAt, getElem?_modifySlot, lockAt]
            simp [hne.symm]

/-- Only a bucket that does not exist is out of bounds, and asking for its lock changes nothing. -/
theorem lockAt_of_take_outOfBounds {length : Nat}
    (h : (take access index).start store =
      (.error (.crashed (.outOfBounds length index)), after)) :
    store.lockAt index = none ∧ after = store := by
  cases hlock : store.lockAt index with
  | none =>
      rw [start_take_of_none hlock] at h
      cases h
      exact ⟨rfl, rfl⟩
  | some lock =>
      cases hacquire : lock.acquire? access with
      | none => rw [start_take_of_blocked hlock hacquire] at h; cases h
      | some held => rw [start_take_of_acquire hlock hacquire] at h; cases h

/-- Giving locks back releases those locks only. -/
theorem lockAt_giveBackAll (hnodup : order.Nodup) :
    (giveBackAll access order store).lockAt other =
      (store.lockAt other).map fun lock => if other ∈ order then lock.release access else lock := by
  refine (congrArg _ (getElem?_foldl_modifySlot _ hnodup)).trans ?_
  rw [lockAt, Option.map_map, Option.map_map]
  congr 1
  funext slot
  by_cases hmem : other ∈ order <;> simp [hmem]

end BucketStore

namespace Crowd

variable {policy : Policy} {crowd next : Crowd} {store : BucketStore} {caller : Caller}
  {job : Job} {i index taken : Nat} {access : Access} {queued : Bool}

/-! ## The locks are accounted for -/

/-- When a caller changes, the holders of a lock change by what it held and what it holds. -/
theorem holders_set (store : BucketStore) (new : Caller) (h : crowd.callers[i]? = some caller)
    (index : Nat) (access : Access) :
    holders ⟨store, crowd.callers.set i new⟩ index access +
        (if access = caller.job.access ∧ index ∈ caller.held then 1 else 0) =
      crowd.holders index access +
        (if access = new.job.access ∧ index ∈ new.held then 1 else 0) := by
  obtain ⟨hlt, rfl⟩ := List.getElem?_eq_some_iff.mp h
  have hcounted : (if crowd.callers[i].holds index access then 1 else 0) ≤
      crowd.holders index access := by
    split_ifs with hholds
    · exact List.countP_pos_iff.mpr ⟨_, List.getElem_mem hlt, hholds⟩
    · exact Nat.zero_le _
  have hset : holders ⟨store, crowd.callers.set i new⟩ index access =
      (crowd.holders index access - if crowd.callers[i].holds index access then 1 else 0) +
        if new.holds index access then 1 else 0 := List.countP_set hlt
  simp only [Caller.holds_eq_true_iff] at hcounted hset
  omega

/-- A lock has holders of a kind exactly if there is one. -/
theorem holders_pos_iff : 0 < crowd.holders index access ↔
    ∃ caller ∈ crowd.callers, access = caller.job.access ∧ index ∈ caller.held := by
  simp only [holders, List.countP_pos_iff, Caller.holds_eq_true_iff]

/-- Nobody holds the locks of an idle store without callers. -/
theorem accounted_of_idle (hidle : store.Idle) : Accounted ⟨store, []⟩ := by
  intro index lock hlock
  obtain ⟨slot, hslot, rfl⟩ := Option.map_eq_some_iff.mp hlock
  rw [hidle slot (Array.mem_of_getElem? hslot)]
  exact ⟨rfl, rfl⟩

/-- A lock whose holders are the same as before stays accounted for. -/
theorem Accounted.heldBy_of_holders_eq {lock : Lock} (h : crowd.Accounted)
    (hlock : crowd.store.lockAt index = some lock)
    (hholders : ∀ access, next.holders index access = crowd.holders index access) :
    lock.HeldBy (next.holders index) := by
  rw [funext hholders]
  exact h index lock hlock

/-- The locks stay accounted for when a caller comes. -/
theorem Accounted.arrive (h : crowd.Accounted) (job : Job) :
    Accounted ⟨crowd.store, crowd.callers ++ [⟨job, .locking 0 false⟩]⟩ := by
  intro index lock hlock
  refine h.heldBy_of_holders_eq hlock fun access => ?_
  simp [holders, Caller.holds, Caller.held]

/-- The locks stay accounted for when a caller gets in line. -/
theorem Accounted.queue (h : crowd.Accounted)
    (hcaller : crowd.callers[i]? = some ⟨job, .locking taken false⟩) :
    Accounted ⟨crowd.store, crowd.callers.set i ⟨job, .locking taken true⟩⟩ := by
  intro index lock hlock
  refine h.heldBy_of_holders_eq hlock fun access => ?_
  exact Nat.add_right_cancel (holders_set _ _ hcaller index access)

/-- The locks stay accounted for when a caller takes one. -/
theorem Accounted.take (h : crowd.Accounted)
    (hcaller : crowd.callers[i]? = some ⟨job, .locking taken queued⟩)
    (hnext : job.order[taken]? = some index)
    (htake : (BucketStore.take job.access index).start crowd.store = (.ok (), store)) :
    Accounted ⟨store, crowd.callers.set i ⟨job, .locking (taken + 1) false⟩⟩ := by
  obtain ⟨lock, held, hlock, hacquire, hheld, hothers⟩ := BucketStore.lockAt_of_take htake
  have hnew : index ∉ Caller.held ⟨job, .locking taken queued⟩ := Job.not_mem_take hnext
  intro other found hfound
  have hset := holders_set store ⟨job, .locking (taken + 1) false⟩ hcaller other
  simp only [Caller.mem_held_succ queued false hnext] at hset
  by_cases heq : other = index
  · subst heq
    obtain rfl : held = found := Option.some.inj (hheld.symm.trans hfound)
    exact (h other lock hlock).acquire hacquire fun access => by simpa [hnew] using hset access
  · refine h.heldBy_of_holders_eq ((hothers other heq).symm.trans hfound) fun access => ?_
    simpa [heq] using hset access

/-- The locks stay accounted for when a caller gives back all that it holds. -/
theorem Accounted.leave (h : crowd.Accounted) (hcaller : crowd.callers[i]? = some caller)
    (hstore : ∀ index, store.lockAt index = (crowd.store.lockAt index).map fun lock =>
      if index ∈ caller.held then lock.release caller.job.access else lock) :
    Accounted ⟨store, crowd.callers.set i ⟨caller.job, .gone⟩⟩ := by
  intro index found hfound
  obtain ⟨lock, hlock, rfl⟩ := Option.map_eq_some_iff.mp ((hstore index).symm.trans hfound)
  have hset := holders_set store ⟨caller.job, .gone⟩ hcaller index
  have hempty : Caller.held ⟨caller.job, .gone⟩ = [] := rfl
  simp only [hempty, List.not_mem_nil, and_false, if_false, Nat.add_zero] at hset
  by_cases hmem : index ∈ caller.held
  · rw [if_pos hmem]
    exact (h index lock hlock).release fun access => by simpa [hmem] using hset access
  · rw [if_neg hmem]
    exact h.heldBy_of_holders_eq hlock fun access => by simpa [hmem] using hset access

/-- The locks stay accounted for when a caller gets on with its job. -/
theorem Accounted.advance (h : crowd.Accounted) (hadvance : Advance policy crowd i next) :
    next.Accounted := by
  cases hadvance with
  | take hcaller hnext hyields htake => exact h.take hcaller hnext htake
  | abort hcaller hnext htake =>
      refine h.leave hcaller fun index => ?_
      obtain ⟨-, rfl⟩ := BucketStore.lockAt_of_take_outOfBounds htake
      exact BucketStore.lockAt_giveBackAll ((Job.nodup_order _).sublist (List.take_sublist _ _))
  | @finish job taken queued hcaller hnext =>
      refine h.leave hcaller fun index => ?_
      have hall : Caller.held ⟨job, .locking taken queued⟩ = job.order :=
        List.take_of_length_le (List.getElem?_eq_none_iff.mp hnext)
      have hkeeps := job.keepsLocks ⟨job.access, job.order.toArray⟩ crowd.store index
      cases hdone : (job.work ⟨job.access, job.order.toArray⟩).start crowd.store with
      | mk outcome done =>
          rw [hdone] at hkeeps
          rw [Action.start_ensuring hdone, BucketStore.lockAt_giveBackAll job.nodup_order, hall,
            hkeeps]

/-- The locks stay accounted for whatever happens. -/
theorem Accounted.step (h : crowd.Accounted) (hstep : Step policy crowd next) :
    next.Accounted := by
  cases hstep with
  | arrive job => exact h.arrive job
  | queue hcaller => exact h.queue hcaller
  | advance hadvance => exact h.advance hadvance

/-- On a store that was idle at first, the locks are accounted for at any time. -/
theorem accounted_of_reachable (hidle : store.Idle)
    (h : Relation.ReflTransGen (Step policy) ⟨store, []⟩ crowd) : crowd.Accounted := by
  induction h with
  | refl => exact accounted_of_idle hidle
  | tail _ hstep ih => exact ih.step hstep

/-! ## A caller alone -/

/-- A caller who is alone with an idle store gets the locks of its job one after another. -/
theorem reaches_locking (policy : Policy) (hidle : store.Idle)
    (hbound : ∀ index ∈ job.indices, index < store.size) (hle : taken ≤ job.order.length) :
    Relation.ReflTransGen (Step policy) ⟨store, []⟩
      ⟨store.lockAll job.access (job.order.take taken), [⟨job, .locking taken false⟩]⟩ := by
  induction taken with
  | zero => exact .single (.arrive job)
  | succ taken ih =>
      have hnext : job.order[taken]? = some job.order[taken] := List.getElem?_eq_getElem hle
      obtain ⟨slot, hslot, hfree⟩ :=
        hidle.exists_slot (hbound _ (mem_lockOrder.mp (List.getElem_mem hle)))
      have hkept : (store.lockAll job.access (job.order.take taken)).slots[job.order[taken]]? =
          some slot := by
        rw [BucketStore.getElem?_lockAll (job.nodup_order.sublist (List.take_sublist _ _)), hslot,
          Option.map_some, if_neg (Job.not_mem_take hnext)]
      have hmore : store.lockAll job.access (job.order.take (taken + 1)) =
          (store.lockAll job.access (job.order.take taken)).modifySlot job.order[taken]
            ({ · with lock := job.access.held }) := by
        rw [List.take_add_one, hnext, BucketStore.lockAll, List.foldl_append]
        rfl
      rw [hmore]
      have hfirst := ih (Nat.le_of_succ_le hle)
      refine hfirst.tail (.advance (.take (i := 0) rfl hnext ?_ ?_))
      · rintro ⟨-, -, other, hother, -, hqueued⟩
        obtain rfl := List.mem_singleton.mp hother
        cases hqueued
      · exact BucketStore.start_take hkept hfree

/-- A caller who is alone with an idle store leaves it as its whole run does. -/
theorem reaches_run (policy : Policy) (hidle : store.Idle)
    (hbound : ∀ index ∈ job.indices, index < store.size) :
    Relation.ReflTransGen (Step policy) ⟨store, []⟩
      ⟨(job.run.start store).2, [⟨job, .gone⟩]⟩ := by
  have hlocking := reaches_locking policy hidle hbound (Nat.le_refl job.order.length)
  rw [List.take_length] at hlocking
  have hrun : job.run.start store =
      ((job.work ⟨job.access, job.order.toArray⟩).ensuring
        (BucketStore.giveBackAll job.access job.order)).start
          (store.lockAll job.access job.order) := by
    have htake : (BucketStore.takeAll job.access job.order).start store =
        (.ok (), store.lockAll job.access job.order) := by
      refine BucketStore.start_takeAll job.nodup_order fun index hindex => ?_
      exact hidle.exists_slot (hbound index (mem_lockOrder.mp hindex))
    exact Action.start_bind_ok htake _
  rw [hrun]
  exact hlocking.tail (.advance (.finish (i := 0) rfl (List.getElem?_eq_none (Nat.le_refl _))))

end Crowd

end Keyspace
