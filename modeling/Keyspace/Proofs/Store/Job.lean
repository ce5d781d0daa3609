/-
# Calls are jobs under locks

Every call of a striped store is a job: it takes the locks of certain buckets, does its
work on them, and gives all locks back. Which buckets these are is known before the first
lock is taken, because no call moves a key to another bucket, and the work itself neither
takes a lock nor gives one back.
-/

import Mathlib
import Keyspace.Proofs.Store.Locking
import Keyspace.Store.Striped

namespace Keyspace

namespace BucketStore

variable {α β : Type}

/-- The lock of a bucket, if there is such a bucket. -/
def lockAt (store : BucketStore) (index : Nat) : Option Lock := store.slots[index]?.map (·.lock)

/-- The action leaves every lock as it is. -/
def KeepsLocks (action : Action BucketStore α) : Prop :=
  ∀ store index, (action.start store).2.lockAt index = store.lockAt index

namespace KeepsLocks

theorem pure (value : α) : KeepsLocks (Pure.pure value) := fun _ _ => rfl

theorem get : KeepsLocks (MonadState.get : Action BucketStore BucketStore) := fun _ _ => rfl

theorem refuse (error : KvError) : KeepsLocks (Action.refuse error : Action _ α) := fun _ _ => rfl

theorem crash (fault : Fault) : KeepsLocks (Action.crash fault : Action _ α) := fun _ _ => rfl

theorem ofResult (result : KvResult α) : KeepsLocks (Action.ofResult result) := by
  cases result with
  | ok value => exact pure value
  | error error => exact refuse error

theorem bind {action : Action BucketStore α} {next : α → Action BucketStore β}
    (h : KeepsLocks action) (hnext : ∀ value, KeepsLocks (next value)) :
    KeepsLocks (action >>= next) := by
  intro store index
  rw [← h store index]
  cases haction : action.start store with
  | mk outcome after =>
      cases outcome with
      | ok value => rw [Action.start_bind_ok haction, hnext value]
      | error failure => rw [Action.start_bind_error haction]

theorem map {action : Action BucketStore α} (h : KeepsLocks action) (f : α → β) :
    KeepsLocks (f <$> action) := by
  intro store index
  rw [Action.start_map]
  exact h store index

theorem mapM {read : α → Action BucketStore β} (h : ∀ item, KeepsLocks (read item))
    (items : List α) : KeepsLocks (items.mapM read) := by
  induction items with
  | nil => exact pure []
  | cons item items ih =>
      rw [List.mapM_cons]
      exact (h item).bind fun value => ih.bind fun values => pure (value :: values)

theorem forM {step : α → Action BucketStore PUnit} (h : ∀ item, KeepsLocks (step item))
    (items : List α) : KeepsLocks (items.forM step) := by
  induction items with
  | nil => exact pure PUnit.unit
  | cons item items ih => exact (h item).bind fun _ => ih

/-- Finding a bucket keeps the locks. -/
theorem bucket (set : LockSet) (index : Nat) : KeepsLocks (set.bucket index) := by
  unfold LockSet.bucket
  cases set.position? index with
  | none => exact crash _
  | some position =>
      dsimp only
      cases set.held[position]? with
      | none => exact crash _
      | some bucket => exact pure bucket

/-- Reading a bucket keeps the locks. -/
theorem items (set : LockSet) (index : Nat) : KeepsLocks (set.items index) := by
  apply (bucket set index).bind
  intro bucket
  apply get.bind
  intro store
  cases store.slots[bucket]? with
  | none => exact crash _
  | some slot => exact pure slot.items

/-- Changing a bucket keeps the locks. -/
theorem change (set : LockSet) (index : Nat) (change : Contents → Contents) :
    KeepsLocks (set.change index change) := by
  apply (bucket set index).bind
  intro bucket store other
  rw [Action.start_modify, lockAt, getElem?_modifySlot, Option.map_map, lockAt]
  congr 1
  funext slot
  by_cases heq : bucket = other <;> simp [heq]

/-- Looking a key up keeps the locks. -/
theorem lookup (set : LockSet) (key : String) (index : Nat) :
    KeepsLocks (BucketStore.lookup set key index) :=
  (items set index).bind fun contents => ofResult (contents.lookup key)

end KeepsLocks

end BucketStore

/-! ## Jobs -/

open BucketStore (KeepsLocks)

/-- What a call does with the locks of a store: it takes those of some buckets, all for the same
use, works under them, and leaves every lock to whoever took it. -/
structure Job where
  access : Access
  indices : List Nat
  work : LockSet → Action BucketStore Answer
  keepsLocks : ∀ set, KeepsLocks (work set)

namespace Job

/-- The buckets whose locks the job takes, in the order in which it does. -/
def order (job : Job) : List Nat := lockOrder job.indices

theorem nodup_order (job : Job) : job.order.Nodup := nodup_lockOrder job.indices

/-- The buckets locked first are below the next one. -/
theorem lt_of_mem_take {job : Job} {taken index other : Nat}
    (hnext : job.order[taken]? = some index) (h : other ∈ job.order.take taken) :
    other < index := by
  obtain ⟨position, hposition, rfl⟩ := List.mem_take_iff_getElem.mp h
  obtain ⟨htaken, rfl⟩ := List.getElem?_eq_some_iff.mp hnext
  have hbefore : position < taken := by omega
  exact List.pairwise_iff_getElem.mp (pairwise_lockOrder job.indices) _ _ _ _ hbefore

/-- No lock is taken twice. -/
theorem not_mem_take {job : Job} {taken index : Nat} (hnext : job.order[taken]? = some index) :
    index ∉ job.order.take taken := fun h => Nat.lt_irrefl index (lt_of_mem_take hnext h)

/-- Does the job from its first lock to its end. -/
def run (job : Job) : Action BucketStore Answer :=
  BucketStore.holding job.access job.indices job.work

end Job

namespace Operation

/-- How a call uses the buckets that it locks. -/
def access : Operation → Access
  | get _ | multiGet _ | allKeys | len | isEmpty => .shared
  | put _ _ | append _ _ | delete _ | multiPut _ _ => .exclusive

/-- The buckets that a call locks. A call that is refused at once needs none. -/
def indices (store : BucketStore) : Operation → List Nat
  | get key | put key _ | append key _ | delete key => [store.indexOf key]
  | multiGet keys => keys.map store.indexOf
  | multiPut keys values => if keys.length = values.length then keys.map store.indexOf else []
  | allKeys | len | isEmpty => List.range store.size

/-- What a call does with the buckets that it has locked. -/
def work (store : BucketStore) (set : LockSet) : Operation → Action BucketStore Answer
  | get key => .value <$> BucketStore.lookup set key (store.indexOf key)
  | put key value => (fun () => .done) <$> set.change (store.indexOf key) (·.insert key value)
  | append key value => (fun () => .done) <$> do
    let old := (← set.items (store.indexOf key)).getD key ""
    set.change (store.indexOf key) (·.insert key (old ++ value))
  | delete key => .value <$> do
    let value ← BucketStore.lookup set key (store.indexOf key)
    set.change (store.indexOf key) (·.erase key)
    pure value
  | multiGet keys => .values <$> (keys.zip (keys.map store.indexOf)).mapM fun (key, index) =>
    BucketStore.lookup set key index
  | multiPut keys values =>
    if keys.length = values.length then
      (fun () => .done) <$> ((keys.zip values).zip (keys.map store.indexOf)).forM
        fun ((key, value), index) => set.change index (·.insert key value)
    else Action.refuse (.lengthMismatch keys.length values.length)
  | allKeys => .keys <$> do
    let buckets ← set.held.toList.mapM set.items
    pure (buckets.flatMap (·.keys))
  | len => .count <$> countKeys set
  | isEmpty => (fun count => .truth (count = 0)) <$> countKeys set
where
  countKeys (set : LockSet) : Action BucketStore Nat := do
    let buckets ← set.held.toList.mapM set.items
    pure (buckets.foldl (fun count items => count + items.size) 0)

theorem keepsLocks_work (operation : Operation) (store : BucketStore) (set : LockSet) :
    KeepsLocks (operation.work store set) := by
  have hitems : ∀ indices : List Nat, KeepsLocks (indices.mapM set.items) := .mapM (.items set)
  cases operation with
  | get key => exact (KeepsLocks.lookup set _ _).map _
  | put key value => exact (KeepsLocks.change set _ _).map _
  | append key value => exact ((KeepsLocks.items set _).bind fun _ => .change set _ _).map _
  | delete key =>
      refine ((KeepsLocks.lookup set _ _).bind fun value => ?_).map _
      exact (KeepsLocks.change set _ _).bind fun _ => .pure value
  | multiGet keys => exact (KeepsLocks.mapM (fun _ => .lookup set _ _) _).map _
  | multiPut keys values =>
      rw [work]
      split_ifs
      · exact (KeepsLocks.forM (fun _ => .change set _ _) _).map _
      · exact .refuse _
  | allKeys => exact ((hitems _).bind fun _ => .pure _).map _
  | len => exact ((hitems _).bind fun _ => .pure _).map _
  | isEmpty => exact ((hitems _).bind fun _ => .pure _).map _

/-- The job of a call. It depends on the store only through the number of its buckets and their
hash. -/
def job (operation : Operation) (store : BucketStore) : Job where
  access := operation.access
  indices := operation.indices store
  work set := operation.work store set
  keepsLocks := operation.keepsLocks_work store

end Operation

namespace BucketStore

variable {α β : Type}

/-- Making something of a result after the locks were given back is making it of the result of
the work. -/
theorem start_map_holding (f : α → β) (access : Access) (indices : List Nat)
    (body : LockSet → Action BucketStore α) (store : BucketStore) :
    (f <$> holding access indices body).start store =
      (holding access indices fun set => f <$> body set).start store := by
  rw [Action.start_map]
  unfold holding
  cases htake : (takeAll access (lockOrder indices)).start store with
  | mk outcome taken =>
      cases outcome with
      | error failure => rw [Action.start_bind_error htake, Action.start_bind_error htake]; rfl
      | ok value =>
          rw [Action.start_bind_ok htake, Action.start_bind_ok htake,
            Action.start_ensuring (Action.start_map f _)]
          rfl

/-- Reading the state first is starting with the state at hand. -/
theorem start_map_get_bind (f : α → β) (next : BucketStore → Action BucketStore α)
    (store : BucketStore) :
    (f <$> (MonadState.get >>= next)).start store = (f <$> next store).start store := by
  rw [Action.start_map, Action.start_map, Action.start_bind_ok Action.start_get]

end BucketStore

/-- A call of a striped store does its job. -/
theorem Operation.perform_eq_run (operation : Operation) (store : BucketStore) :
    operation.perform.start store = (operation.job store).run.start store := by
  cases operation with
  | multiPut keys values =>
      simp only [perform, KvStore.multiPut, BucketStore.multiPut, job, Job.run, access, indices,
        work]
      by_cases hlength : keys.length = values.length
      · simp only [hlength, if_true, BucketStore.start_map_get_bind, BucketStore.start_map_holding]
      · simp only [hlength, if_false]
        rfl
  | _ =>
      -- Any other call looks at the store for its buckets and then works under their locks.
      simp only [perform, KvStore.get, KvStore.put, KvStore.append, KvStore.delete,
        KvStore.multiGet, KvStore.allKeys, KvStore.len, BucketStore.get, BucketStore.put,
        BucketStore.append, BucketStore.delete, BucketStore.multiGet, BucketStore.allKeys,
        BucketStore.len, BucketStore.holdingEvery, BucketStore.start_map_get_bind,
        BucketStore.start_map_holding, job, Job.run, access, indices, work, work.countKeys]

end Keyspace
