/-
# No call crashes

A call can crash in three ways: it can ask for the lock of a bucket that is not there, it
can look a bucket up in a set of locks that does not have it, and a store without buckets
cannot be made. None of them happens. A key is sent to a bucket that is there, since there
is at least one; the locks of a call are those of its own buckets, in ascending order, so
that halving finds each of them; and what the work under the locks looks up are these same
buckets, because no call changes how many of them there are. Others who are at work at the
same time change that as little, so all this holds whatever the buckets have in them and
whoever holds their locks. A server gets at least one bucket from any arguments that it
accepts.

How much memory there is for buckets is left out.
-/

import Mathlib
import Keyspace.Proofs.Settings.Acceptance
import Keyspace.Proofs.Store.Census
import Keyspace.Proofs.Store.Crowd
import Keyspace.Proofs.Store.Engine

namespace Keyspace

namespace BucketStore

variable {α β : Type} {store : BucketStore} {count index : Nat} {indices : List Nat}
  {access : Access}

/-- On a store of this many buckets, whatever they hold and whoever has their locks, the action
does not crash, and there are as many buckets after it. -/
def NeverCrashes (count : Nat) (action : Action BucketStore α) : Prop :=
  ∀ store : BucketStore, store.size = count →
    (∀ fault, (action.start store).1 ≠ .error (.crashed fault)) ∧
      (action.start store).2.size = count

namespace NeverCrashes

theorem pure (value : α) : NeverCrashes count (Pure.pure value) := fun _ hsize => ⟨nofun, hsize⟩

theorem refuse (error : KvError) : NeverCrashes count (Action.refuse error : Action _ α) :=
  fun _ hsize => ⟨nofun, hsize⟩

theorem ofResult (result : KvResult α) : NeverCrashes count (Action.ofResult result) := by
  cases result with
  | ok value => exact pure value
  | error error => exact refuse error

theorem bind {action : Action BucketStore α} {next : α → Action BucketStore β}
    (h : NeverCrashes count action) (hnext : ∀ value, NeverCrashes count (next value)) :
    NeverCrashes count (action >>= next) := by
  intro store hsize
  obtain ⟨hcrash, hafter⟩ := h store hsize
  cases haction : action.start store with
  | mk outcome after =>
      rw [haction] at hcrash hafter
      cases outcome with
      | ok value =>
          rw [Action.start_bind_ok haction]
          exact hnext value after hafter
      | error failure =>
          rw [Action.start_bind_error haction]
          refine ⟨fun fault heq => hcrash fault ?_, hafter⟩
          exact congrArg Except.error (Except.error.inj heq)

theorem map {action : Action BucketStore α} (h : NeverCrashes count action) (f : α → β) :
    NeverCrashes count (f <$> action) := by
  rw [map_eq_pure_bind]
  exact h.bind fun value => pure (f value)

theorem mapM {read : α → Action BucketStore β} {items : List α}
    (h : ∀ item ∈ items, NeverCrashes count (read item)) :
    NeverCrashes count (items.mapM read) := by
  induction items with
  | nil => exact pure []
  | cons item items ih =>
      rw [List.forall_mem_cons] at h
      rw [List.mapM_cons]
      exact h.1.bind fun value => (ih h.2).bind fun values => pure (value :: values)

theorem forM {step : α → Action BucketStore PUnit} {items : List α}
    (h : ∀ item ∈ items, NeverCrashes count (step item)) :
    NeverCrashes count (items.forM step) := by
  induction items with
  | nil => exact pure PUnit.unit
  | cons item items ih =>
      rw [List.forall_mem_cons] at h
      exact h.1.bind fun _ => ih h.2

/-- A bucket that was asked for and is there can be read. -/
theorem items (hlocked : index ∈ indices) (hindex : index < count) :
    NeverCrashes count (LockSet.items ⟨access, (lockOrder indices).toArray⟩ index) := by
  intro store hsize
  have hlt : index < store.slots.size := hindex.trans_eq hsize.symm
  have hslot : store.slots[index]? = some store.slots[index] := Array.getElem?_eq_getElem hlt
  rw [LockSet.items, LockSet.bucket_eq_pure access hlocked, pure_bind,
    Action.start_bind_ok Action.start_get, hslot]
  exact pure _ store hsize

/-- A bucket that was asked for can be changed. -/
theorem change (hlocked : index ∈ indices) (change : Contents → Contents) :
    NeverCrashes count (LockSet.change ⟨access, (lockOrder indices).toArray⟩ index change) := by
  intro store hsize
  rw [LockSet.change, LockSet.bucket_eq_pure access hlocked, pure_bind, Action.start_modify]
  refine ⟨fun fault hcrashed => ?_, (size_modifySlot _).trans hsize⟩
  cases hcrashed

/-- A key can be looked up in a bucket that was asked for and is there. -/
theorem lookup (hlocked : index ∈ indices) (hindex : index < count) (key : String) :
    NeverCrashes count (lookup ⟨access, (lockOrder indices).toArray⟩ key index) :=
  (items hlocked hindex).bind fun contents => ofResult (contents.lookup key)

end NeverCrashes

/-- Whoever asks for the lock of a bucket that is there gets it or has to wait. -/
theorem eq_blocked_of_take {fault : Fault} (hindex : index < store.size)
    (h : ((take access index).start store).1 = .error (.crashed fault)) :
    fault = .blocked index := by
  cases hlock : store.lockAt index with
  | none => exact absurd (lockAt_eq_none_iff.mp hlock) (Nat.not_le_of_lt hindex)
  | some lock =>
      cases hacquire : lock.acquire? access with
      | none =>
          rw [start_take_of_blocked hlock hacquire] at h
          cases h
          rfl
      | some held =>
          rw [start_take_of_acquire hlock hacquire] at h
          cases h

/-- Asking for a lock keeps the buckets. -/
theorem size_start_take (store : BucketStore) (access : Access) (index : Nat) :
    ((take access index).start store).2.size = store.size := by
  cases hlock : store.lockAt index with
  | none => rw [start_take_of_none hlock]
  | some lock =>
      cases hacquire : lock.acquire? access with
      | none => rw [start_take_of_blocked hlock hacquire]
      | some held =>
          rw [start_take_of_acquire hlock hacquire]
          exact size_modifySlot _

/-- Giving locks back keeps the buckets. -/
theorem size_giveBackAll (order : List Nat) :
    (giveBackAll access order store).size = store.size := by
  induction order generalizing store with
  | nil => rfl
  | cons first rest ih => exact ih.trans (size_modifySlot _)

/-- An action that keeps the locks keeps the buckets behind them. -/
theorem KeepsLocks.size_start {action : Action BucketStore α} (h : KeepsLocks action)
    (store : BucketStore) : (action.start store).2.size = store.size := by
  have hle : ∀ index, (action.start store).2.size ≤ index ↔ store.size ≤ index := by
    intro index
    rw [← lockAt_eq_none_iff, ← lockAt_eq_none_iff, h store index]
  exact Nat.le_antisymm ((hle _).mpr (Nat.le_refl _)) ((hle _).mp (Nat.le_refl _))

end BucketStore

open BucketStore (NeverCrashes ofCount)

/-! ## Calls -/

namespace Operation

variable {store : BucketStore} {index : Nat}

/-- A call asks for buckets that are there. -/
theorem lt_of_mem_indices (operation : Operation) (hpos : 0 < store.size)
    (hindex : index ∈ operation.indices store) : index < store.size := by
  have hkey : ∀ key, store.indexOf key < store.size := fun key => Nat.mod_lt _ hpos
  have hkeys : ∀ keys : List String, index ∈ keys.map store.indexOf → index < store.size := by
    intro keys hmem
    obtain ⟨key, -, rfl⟩ := List.mem_map.mp hmem
    exact hkey key
  cases operation with
  | get key | put key value | append key value | delete key => exact hkeys [key] hindex
  | multiGet keys => exact hkeys keys hindex
  | multiPut keys values =>
      rw [indices] at hindex
      split_ifs at hindex
      · exact hkeys keys hindex
      · cases hindex
  | allKeys | len | isEmpty => exact List.mem_range.mp hindex

/-- Under the locks of its buckets a call does not crash. -/
theorem neverCrashes_work (operation : Operation) (hpos : 0 < store.size) :
    NeverCrashes store.size (operation.work store
      ⟨operation.access, (lockOrder (operation.indices store)).toArray⟩) := by
  have hbound : ∀ index ∈ operation.indices store, index < store.size :=
    fun _ => operation.lt_of_mem_indices hpos
  have hall : NeverCrashes store.size ((lockOrder (operation.indices store)).mapM
      (LockSet.items ⟨operation.access, (lockOrder (operation.indices store)).toArray⟩)) := by
    refine .mapM fun index hindex => ?_
    have hlocked := mem_lockOrder.mp hindex
    exact .items hlocked (hbound index hlocked)
  have hown : ∀ {key}, store.indexOf key ∈ [store.indexOf key] := List.mem_singleton_self _
  cases operation with
  | get key => exact (NeverCrashes.lookup hown (hbound _ hown) key).map _
  | put key value => exact (NeverCrashes.change hown _).map _
  | append key value =>
      exact ((NeverCrashes.items hown (hbound _ hown)).bind fun _ => .change hown _).map _
  | delete key =>
      refine ((NeverCrashes.lookup hown (hbound _ hown) key).bind fun value => ?_).map _
      exact (NeverCrashes.change hown _).bind fun _ => .pure value
  | multiGet keys =>
      refine (NeverCrashes.mapM fun item hitem => ?_).map _
      have hlocked := (List.of_mem_zip hitem).2
      exact .lookup hlocked (hbound _ hlocked) _
  | multiPut keys values =>
      by_cases hlength : keys.length = values.length
      · have hindices : indices store (multiPut keys values) = keys.map store.indexOf :=
          if_pos hlength
        rw [work, if_pos hlength, hindices]
        refine (NeverCrashes.forM fun item hitem => ?_).map _
        exact .change (List.of_mem_zip hitem).2 _
      · rw [work, if_neg hlength]
        exact .refuse _
  | allKeys => exact (hall.bind fun _ => .pure _).map _
  | len => exact (hall.bind fun _ => .pure _).map _
  | isEmpty => exact (hall.bind fun _ => .pure _).map _

end Operation

/-- What keeps a job from crashing on all stores of this many buckets, whatever they hold and
whoever has their locks. -/
structure Job.Safe (job : Job) (count : Nat) : Prop where
  /-- The buckets that it locks are there. -/
  bound : ∀ index ∈ job.order, index < count
  /-- They are locked in ascending order, each of them once. -/
  ascending : job.order.Pairwise (· < ·)
  /-- Halving finds every bucket that it asked for, at the place that the bucket has. -/
  found : ∀ index ∈ job.indices, ∃ position,
    LockSet.position? ⟨job.access, job.order.toArray⟩ index = some position ∧
      job.order[position]? = some index
  /-- It gets each of its locks, or has to wait for it. -/
  taking : ∀ store : BucketStore, store.size = count → ∀ index ∈ job.order, ∀ fault,
    ((BucketStore.take job.access index).start store).1 = .error (.crashed fault) →
      fault = .blocked index
  /-- It does not crash under its locks, nor is a bucket lost. -/
  working : NeverCrashes count (job.work ⟨job.access, job.order.toArray⟩)

/-- The jobs of calls are safe. -/
theorem Operation.safe_job (operation : Operation) {store : BucketStore} (hpos : 0 < store.size) :
    (operation.job store).Safe store.size where
  bound := fun _ hindex => operation.lt_of_mem_indices hpos (mem_lockOrder.mp hindex)
  ascending := pairwise_lockOrder _
  found := fun _ hindex => LockSet.exists_position? operation.access hindex
  taking := by
    intro other hsize index hindex fault
    have hlt := operation.lt_of_mem_indices hpos (mem_lockOrder.mp hindex)
    exact BucketStore.eq_blocked_of_take (hsize ▸ hlt)
  working := operation.neverCrashes_work hpos

/-! ## Runs -/

namespace Crowd

variable {policy : Policy} {store : BucketStore} {crowd next : Crowd} {i : Nat}

/-- A caller who gets on with its job keeps the buckets. -/
theorem size_eq_of_advance (h : Advance policy crowd i next) :
    next.store.size = crowd.store.size := by
  cases h with
  | @take job _ index _ _ hcaller hnext hyields htake =>
      have hsize := BucketStore.size_start_take crowd.store job.access index
      rwa [htake] at hsize
  | @abort job _ index _ _ _ hcaller hnext htake =>
      have hsize := BucketStore.size_start_take crowd.store job.access index
      rw [htake] at hsize
      exact (BucketStore.size_giveBackAll _).trans hsize
  | @finish job _ _ hcaller hnext =>
      have hsize := (job.keepsLocks ⟨job.access, job.order.toArray⟩).size_start crowd.store
      exact (BucketStore.size_giveBackAll _).trans hsize

/-- Callers at work at the same time keep the buckets. -/
theorem size_eq_of_reachable (h : Relation.ReflTransGen (Step policy) ⟨store, []⟩ crowd) :
    crowd.store.size = store.size := by
  induction h with
  | refl => rfl
  | tail _ hstep ih =>
      cases hstep with
      | arrive job => exact ih
      | queue hcaller => exact ih
      | advance hadvance => exact (size_eq_of_advance hadvance).trans ih

end Crowd

namespace KvStore

variable {σ : Type} [KvStore σ] {Sound : σ → Prop} {s : σ}

/-- No call of a lawful store crashes, whatever was called before. -/
theorem Lawful.not_crashed (h : Lawful Sound) (hs : Sound s) (calls : List Operation)
    (operation : Operation) (fault : Fault) :
    (operation.perform.start (Operation.afterCalls calls s)).1 ≠ .error (.crashed fault) := by
  have hsound := (h.contents_afterCalls hs calls).1
  obtain ⟨result, hends, -⟩ := h.ends_perform hsound operation
  rw [hends.outcome_eq]
  cases result with
  | ok answer => exact nofun
  | error error => exact nofun

end KvStore

/-- An engine with a bucket can be made, of either kind. -/
theorem Engine.exists_ofKind (kind : EngineKind) {count : Nat} (hpos : 0 < count) :
    ∃ engine, ofKind kind count = .ok engine ∧ engine.Fresh := by
  cases kind with
  | simple => exact ⟨_, rfl, .simple⟩
  | striped =>
      obtain ⟨fresh, hfresh, -⟩ := BucketStore.exists_ofCount bucketHash hpos
      refine ⟨.striped fresh, ?_, .striped hfresh⟩
      rw [ofKind, hfresh]
      rfl

/-- A store of any positive number of buckets, under any hash, can be made and never crashes. After
every run of calls it has as many buckets as it was made with, so that keys are sent to one of them;
and whatever is called next is a job that locks existing buckets in ascending order, finds each of
them in its set, and ends with an answer or a refusal. At any time among callers who are at work
together, the job of a call stays safe in the same way: it gets its locks or waits for them, and
does not crash under them. The arguments of a server are accepted only with at least one bucket, and
then there is an engine to start with, of which no call crashes. -/
theorem calls_never_crash :
    (∀ (hash : String → UInt64) (count : Nat), 0 < count →
      ∃ fresh, ofCount hash count = .ok fresh ∧
        (∀ calls (operation : Operation),
          let reached := Operation.afterCalls calls fresh
          reached.size = count ∧ (∀ key, reached.indexOf key < reached.size) ∧
          (operation.job reached).Safe count ∧
          operation.perform.start reached = (operation.job reached).run.start reached ∧
          ∀ fault, (operation.perform.start reached).1 ≠ .error (.crashed fault)) ∧
        ∀ policy crowd, Relation.ReflTransGen (Crowd.Step policy) ⟨fresh, []⟩ crowd →
          crowd.store.size = count ∧ ∀ operation : Operation,
            (operation.job crowd.store).Safe count) ∧
    ∀ arguments env settings, Command.ofArguments arguments env = .ok (.server settings) →
      0 < settings.buckets ∧ ∃ engine, Engine.ofKind settings.engine settings.buckets = .ok engine ∧
        ∀ calls (operation : Operation) fault,
          (operation.perform.start (Operation.afterCalls calls engine)).1 ≠
            .error (.crashed fault) := by
  constructor
  · intro hash count hpos
    obtain ⟨fresh, hfresh, hsound, -⟩ := BucketStore.exists_ofCount hash hpos
    have hsize : fresh.size = count := by
      rw [ofCount, if_neg (Nat.ne_of_gt hpos)] at hfresh
      cases hfresh
      exact Array.size_replicate
    refine ⟨fresh, hfresh, ?_, ?_⟩
    · intro calls operation reached
      obtain ⟨hreached, hspread⟩ := hsound.afterCalls calls
      have hcount : reached.size = count := hspread.size_eq.trans hsize
      exact ⟨hcount, hreached.indexOf_lt, hcount ▸ operation.safe_job hreached.nonempty,
        operation.perform_eq_run reached, BucketStore.lawful.not_crashed hsound calls operation⟩
    · intro policy crowd hcrowd
      have hcount : crowd.store.size = count := (Crowd.size_eq_of_reachable hcrowd).trans hsize
      have hnonempty : 0 < crowd.store.size := hpos.trans_eq hcount.symm
      exact ⟨hcount, fun operation => hcount ▸ operation.safe_job hnonempty⟩
  · intro arguments env settings haccepted
    have hpos := pos_of_ofArguments haccepted
    obtain ⟨engine, hengine, hfresh⟩ := Engine.exists_ofKind settings.engine hpos
    exact ⟨hpos, engine, hengine, Engine.lawful.not_crashed hfresh.sound_and_empty.1⟩

/-- All keys meet in the second of three buckets, and are read with repetitions; another call comes
while someone is at work. A server is asked for no buckets, and then for three. -/
theorem calls_never_crash_colliding :
    (∃ fresh, ofCount (fun _ => 7) 3 = .ok fresh ∧
      (∀ fault, ((Operation.multiGet ["b", "a", "b"]).perform.start (Operation.afterCalls
        [.multiPut ["a", "b", "a"] ["1", "2", "3"], .multiPut ["c"] []] fresh)).1 ≠
          .error (.crashed fault)) ∧
      (Operation.allKeys.job fresh).Safe 3) ∧
    ∃ engine, Engine.ofKind .striped 3 = .ok engine ∧ ∀ calls fault,
      (Operation.isEmpty.perform.start (Operation.afterCalls calls engine)).1 ≠
        .error (.crashed fault) := by
  obtain ⟨hstores, hservers⟩ := calls_never_crash
  constructor
  · obtain ⟨fresh, hfresh, hruns, hcrowds⟩ := hstores (fun _ => 7) 3 (by decide)
    have hcrowd : Relation.ReflTransGen (Crowd.Step .byAvailability) ⟨fresh, []⟩
      ⟨fresh, [⟨(Operation.append "a" "4").job fresh, .locking 0 false⟩]⟩ := .single (.arrive _)
    exact ⟨fresh, hfresh, (hruns _ _).2.2.2.2, (hcrowds _ _ hcrowd).2 _⟩
  · have haccepted : Command.ofArguments ["server", "--buckets", "0", "--buckets", "3"]
        (fun _ => none) = .ok (.server ⟨.v4 #v[127, 0, 0, 1] 7000, 3, .striped⟩) := by rfl
    obtain ⟨-, engine, hengine, hcalls⟩ := hservers _ _ _ haccepted
    exact ⟨engine, hengine, fun calls => hcalls calls .isEmpty⟩

end Keyspace
