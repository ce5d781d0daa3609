/-
# No circle of callers waiting for each other

A caller takes its locks in ascending order of their buckets, so whatever it holds is
below the lock that it waits for. Callers are ranked by the lock they want next, those who
want none above all, and among those who want the same lock the first in line is highest.
Whoever waits then waits for a caller of higher rank: waiting never closes a circle, and
the highest of the unfinished callers waits for nobody.

In which order those in line are served does not matter for this, as long as it is one
order for all of them.
-/

import Mathlib
import Keyspace.Proofs.Store.Crowd

namespace Keyspace

/-- How many steps a caller has still to go. -/
def Caller.remaining (caller : Caller) : Nat :=
  match caller.stage with
  | .locking taken _ => caller.job.order.length - taken + 1
  | .gone => 0

namespace Crowd

variable {policy : Policy} {crowd next : Crowd} {caller other : Caller} {lock : Lock}
  {access : Access} {place : Nat → Nat} {i j index : Nat}

/-- A caller is at this position and has not left yet. -/
def Unfinished (crowd : Crowd) (i : Nat) : Prop :=
  ∃ caller, crowd.callers[i]? = some caller ∧ caller.stage ≠ .gone

/-- One caller waits for another: the lock that it wants is held by the other, or the other is in
line for it at an earlier place. -/
def WaitsFor (crowd : Crowd) (place : Nat → Nat) (i j : Nat) : Prop :=
  ∃ caller other index, crowd.callers[i]? = some caller ∧ crowd.callers[j]? = some other ∧
    caller.next? = some index ∧
    (index ∈ other.held ∨ other.queuedFor? = some index ∧ place j < place i)

/-- The places of callers where those who want a lock for themselves come first. -/
def exclusiveFirst (crowd : Crowd) (i : Nat) : Nat :=
  match (crowd.callers[i]?).map (·.job.access) with
  | some Access.exclusive => 0
  | _ => 1

/-- The lock that the caller at a position wants; beyond all locks if it wants none. -/
def wanted (crowd : Crowd) (i : Nat) : ℕ∞ :=
  match (crowd.callers[i]?).bind Caller.next? with
  | some index => index
  | none => ⊤

/-- How high the caller at a position stands among those who wait for each other. -/
def rank (crowd : Crowd) (place : Nat → Nat) (i : Nat) : ℕ∞ ×ₗ ℕᵒᵈ :=
  toLex (crowd.wanted i, OrderDual.toDual (place i))

/-! ## Who waits for whom -/

theorem wanted_eq (hcaller : crowd.callers[i]? = some caller) (hnext : caller.next? = some index) :
    crowd.wanted i = index := by
  rw [wanted, hcaller, Option.bind_some, hnext]

/-- Whoever holds a lock wants none but higher ones. -/
theorem lt_wanted_of_mem_held (hother : crowd.callers[j]? = some other)
    (hheld : index ∈ other.held) : ↑index < crowd.wanted j := by
  cases hnext : other.next? with
  | none =>
      rw [wanted, hother, Option.bind_some, hnext]
      exact ENat.natCast_lt_top index
  | some next =>
      rw [wanted_eq hother hnext]
      exact Nat.cast_lt.mpr (Caller.lt_of_mem_held hnext hheld)

/-- Whoever waits ranks below the one that it waits for. -/
theorem rank_lt_of_waitsFor (h : crowd.WaitsFor place i j) :
    crowd.rank place i < crowd.rank place j := by
  obtain ⟨caller, other, index, hcaller, hother, hnext, hcase⟩ := h
  rw [rank, rank, Prod.Lex.toLex_lt_toLex, wanted_eq hcaller hnext]
  rcases hcase with hheld | ⟨hqueued, hplace⟩
  · exact .inl (lt_wanted_of_mem_held hother hheld)
  · have hsame := wanted_eq hother (Caller.next?_of_queuedFor? hqueued)
    exact .inr ⟨hsame.symm, OrderDual.toDual_lt_toDual.mpr hplace⟩

/-- Nobody waits for themselves, not even through others. -/
theorem not_transGen_waitsFor (crowd : Crowd) (place : Nat → Nat) (i : Nat) :
    ¬ Relation.TransGen (crowd.WaitsFor place) i i := by
  intro h
  have hlt : Relation.TransGen (· < ·) (crowd.rank place i) (crowd.rank place i) :=
    h.lift (crowd.rank place) fun _ _ => rank_lt_of_waitsFor
  rw [Relation.transGen_eq_self] at hlt
  exact lt_irrefl _ hlt

/-! ## Who gets on -/

/-- A lock can be had exactly if each of its holders would share it with whoever asks. -/
theorem Accounted.isSome_acquire?_iff (h : crowd.Accounted)
    (hlock : crowd.store.lockAt index = some lock) :
    (lock.acquire? access).isSome ↔ ∀ other ∈ crowd.callers, index ∈ other.held →
      access = .shared ∧ other.job.access = .shared := by
  rw [(h index lock hlock).isSome_acquire?_iff]
  constructor
  · intro hholders other hother hheld
    exact hholders _ (holders_pos_iff.mpr ⟨other, hother, rfl, hheld⟩)
  · intro hothers use hpos
    obtain ⟨other, hother, rfl, hheld⟩ := holders_pos_iff.mp hpos
    exact hothers other hother hheld

/-- A caller gets the lock of an existing bucket exactly if each of its holders would share it,
and if it need not let anyone pass first. -/
theorem Accounted.exists_advance_iff (h : crowd.Accounted)
    (hcaller : crowd.callers[i]? = some caller) (hnext : caller.next? = some index)
    (hindex : index < crowd.store.size) :
    (∃ next, Advance policy crowd i next) ↔
      (∀ other ∈ crowd.callers, index ∈ other.held →
        caller.job.access = .shared ∧ other.job.access = .shared) ∧
      ¬ crowd.Yields policy caller.job.access index := by
  obtain ⟨lock, hlock⟩ : ∃ lock, crowd.store.lockAt index = some lock := by
    rw [← Option.ne_none_iff_exists', Ne, BucketStore.lockAt_eq_none_iff]
    omega
  rw [← h.isSome_acquire?_iff hlock]
  obtain ⟨job, stage⟩ := caller
  cases stage with
  | gone => cases hnext
  | locking taken queued =>
      constructor
      · rintro ⟨next, hadvance⟩
        cases hadvance with
        | take hsame hindex hyields htake =>
            obtain ⟨⟩ := Option.some.inj (hcaller.symm.trans hsame)
            obtain rfl := Option.some.inj (hnext.symm.trans hindex)
            obtain ⟨found, held, hfound, hacquire, -, -⟩ := BucketStore.lockAt_of_take htake
            obtain rfl := Option.some.inj (hlock.symm.trans hfound)
            exact ⟨Option.isSome_of_eq_some hacquire, hyields⟩
        | abort hsame hindex htake =>
            obtain ⟨⟩ := Option.some.inj (hcaller.symm.trans hsame)
            obtain rfl := Option.some.inj (hnext.symm.trans hindex)
            exact nomatch hlock.symm.trans (BucketStore.lockAt_of_take_outOfBounds htake).1
        | finish hsame hnone =>
            obtain ⟨⟩ := Option.some.inj (hcaller.symm.trans hsame)
            exact nomatch hnext.symm.trans hnone
      · rintro ⟨hisSome, hyields⟩
        obtain ⟨held, hacquire⟩ := Option.isSome_iff_exists.mp hisSome
        exact ⟨_, .take hcaller hnext hyields (BucketStore.start_take_of_acquire hlock hacquire)⟩

/-- An unfinished caller gets on, or it waits for another that is unfinished. -/
theorem Accounted.advances_or_waits (h : crowd.Accounted) (policy : Policy)
    (hunfinished : crowd.Unfinished i) :
    (∃ next, Advance policy crowd i next) ∨
      ∃ j, crowd.WaitsFor crowd.exclusiveFirst i j ∧ crowd.Unfinished j := by
  obtain ⟨caller, hcaller, hstage⟩ := hunfinished
  cases hnext : caller.next? with
  | none =>
      obtain ⟨job, _ | _⟩ := caller
      · exact .inl ⟨_, .finish hcaller hnext⟩
      · exact absurd rfl hstage
  | some index =>
      by_cases hindex : index < crowd.store.size
      · rw [h.exists_advance_iff hcaller hnext hindex]
        by_cases hheld : ∀ other ∈ crowd.callers, index ∈ other.held →
            caller.job.access = .shared ∧ other.job.access = .shared
        · by_cases hyields : crowd.Yields policy caller.job.access index
          · -- Someone in line for the lock comes first.
            obtain ⟨-, hshared, other, hother, hexclusive, hqueued⟩ := hyields
            obtain ⟨j, hj⟩ := List.mem_iff_getElem?.mp hother
            have hplace : crowd.exclusiveFirst j < crowd.exclusiveFirst i := by
              rw [exclusiveFirst, exclusiveFirst, hj, hcaller, Option.map_some, Option.map_some,
                hexclusive, hshared]
              exact Nat.zero_lt_one
            have hwaits : crowd.WaitsFor crowd.exclusiveFirst i j :=
              ⟨caller, other, index, hcaller, hj, hnext, .inr ⟨hqueued, hplace⟩⟩
            have hstays := Caller.stage_ne_gone_of_next? (Caller.next?_of_queuedFor? hqueued)
            exact .inr ⟨j, hwaits, other, hj, hstays⟩
          · exact .inl ⟨hheld, hyields⟩
        · -- Someone holds the lock who would not share it with this caller.
          push Not at hheld
          obtain ⟨other, hother, hmem, -⟩ := hheld
          obtain ⟨j, hj⟩ := List.mem_iff_getElem?.mp hother
          have hwaits : crowd.WaitsFor crowd.exclusiveFirst i j :=
            ⟨caller, other, index, hcaller, hj, hnext, .inl hmem⟩
          exact .inr ⟨j, hwaits, other, hj, Caller.stage_ne_gone_of_mem_held hmem⟩
      · -- There is no such bucket, and the caller leaves.
        obtain ⟨job, _ | _⟩ := caller
        · have hmissing := BucketStore.lockAt_eq_none_iff.mpr (Nat.le_of_not_lt hindex)
          exact .inl ⟨_, .abort hcaller hnext (BucketStore.start_take_of_none hmissing)⟩
        · cases hnext

/-- There are only so many unfinished callers. -/
theorem finite_unfinished (crowd : Crowd) : {i | crowd.Unfinished i}.Finite := by
  refine (Set.finite_Iio crowd.callers.length).subset ?_
  rintro i ⟨caller, hcaller, -⟩
  exact (List.getElem?_eq_some_iff.mp hcaller).1

/-- As long as there are unfinished callers, the highest of them gets on. -/
theorem Accounted.exists_advance (h : crowd.Accounted) (policy : Policy)
    (hunfinished : ∃ i, crowd.Unfinished i) :
    ∃ i next, crowd.Unfinished i ∧ Advance policy crowd i next := by
  obtain ⟨i, hi, hmax⟩ :=
    Set.exists_max_image _ (crowd.rank crowd.exclusiveFirst) crowd.finite_unfinished hunfinished
  rcases h.advances_or_waits policy hi with ⟨next, hadvance⟩ | ⟨j, hwaits, hj⟩
  · exact ⟨i, next, hi, hadvance⟩
  · exact absurd (rank_lt_of_waitsFor hwaits) (hmax j hj).not_gt

/-! ## Everyone gets done -/

/-- How many steps all callers have still to go. -/
def remaining (crowd : Crowd) : Nat := (crowd.callers.map Caller.remaining).sum

/-- If a caller has fewer steps to go, so have all together. -/
theorem remaining_set_lt (store : BucketStore) {new : Caller}
    (h : crowd.callers[i]? = some caller) (hlt : new.remaining < caller.remaining) :
    remaining ⟨store, crowd.callers.set i new⟩ < crowd.remaining := by
  obtain ⟨hi, rfl⟩ := List.getElem?_eq_some_iff.mp h
  have hbefore : crowd.remaining =
      ((crowd.callers.take i ++ crowd.callers[i] :: crowd.callers.drop (i + 1)).map
        Caller.remaining).sum := by
    rw [List.getElem_cons_drop, List.take_append_drop, remaining]
  rw [hbefore, remaining, List.set_eq_take_append_cons_drop, if_pos hi]
  simp only [List.map_append, List.map_cons, List.sum_append, List.sum_cons]
  omega

/-- Whoever gets on has fewer steps to go. -/
theorem remaining_lt_of_advance (h : Advance policy crowd i next) :
    next.remaining < crowd.remaining := by
  cases h with
  | take hcaller hnext hyields htake =>
      refine remaining_set_lt _ hcaller ?_
      have hlt := (List.getElem?_eq_some_iff.mp hnext).1
      simp only [Caller.remaining]
      omega
  | abort hcaller hnext htake => exact remaining_set_lt _ hcaller (Nat.succ_pos _)
  | finish hcaller hnext => exact remaining_set_lt _ hcaller (Nat.succ_pos _)

/-- Callers cannot get on forever. -/
theorem wellFounded_advance (policy : Policy) :
    WellFounded fun next crowd => ∃ i, Advance policy crowd i next :=
  Subrelation.wf (fun ⟨_, hadvance⟩ => remaining_lt_of_advance hadvance) (measure remaining).wf

/-- If nobody comes any more, all callers get done. -/
theorem Accounted.all_get_done (h : crowd.Accounted) (policy : Policy) :
    ∃ last, Relation.ReflTransGen (fun crowd next => ∃ i, Advance policy crowd i next) crowd last ∧
      ∀ i, ¬ last.Unfinished i := by
  induction crowd using (wellFounded_advance policy).induction with
  | _ crowd ih =>
      by_cases hunfinished : ∃ i, crowd.Unfinished i
      · obtain ⟨i, next, -, hadvance⟩ := h.exists_advance policy hunfinished
        obtain ⟨last, hreaches, hlast⟩ := ih next ⟨i, hadvance⟩ (h.advance hadvance)
        exact ⟨last, .head ⟨i, hadvance⟩ hreaches, hlast⟩
      · exact ⟨crowd, .refl, not_exists.mp hunfinished⟩

/-- Calls never wait in a circle. At any time each operation does its job on the store, and whoever
wants the lock of an existing bucket gets it exactly if all its holders would share it and it need
not let anyone pass first. Of the unfinished calls one always gets on, and those that do not wait
for another. Nobody wants the lock of a bucket that it holds, and nobody waits for itself through
others, whatever places they have in line. -/
theorem calls_never_wait_in_circle {policy : Policy} {store : BucketStore} {crowd : Crowd}
    (hidle : store.Idle)
    (hreachable : Relation.ReflTransGen (Step policy) ⟨store, []⟩ crowd) :
    (∀ operation : Operation, operation.perform.start crowd.store =
      (BucketStore.holding operation.access (operation.indices crowd.store)
        fun set => operation.work crowd.store set).start crowd.store) ∧
    (∀ i caller index, crowd.callers[i]? = some caller → caller.next? = some index →
      index < crowd.store.size →
      ((∃ next, Advance policy crowd i next) ↔
        (∀ other ∈ crowd.callers, index ∈ other.held →
          caller.job.access = .shared ∧ other.job.access = .shared) ∧
        ¬ crowd.Yields policy caller.job.access index)) ∧
    ((∃ i, crowd.Unfinished i) → ∃ i next, crowd.Unfinished i ∧ Advance policy crowd i next) ∧
    (∀ i, crowd.Unfinished i → (∃ next, Advance policy crowd i next) ∨
      ∃ j, crowd.WaitsFor crowd.exclusiveFirst i j ∧ crowd.Unfinished j) ∧
    (∀ caller ∈ crowd.callers, ∀ index, caller.next? = some index → index ∉ caller.held) ∧
    ∀ place i, ¬ Relation.TransGen (crowd.WaitsFor place) i i := by
  have haccounted := accounted_of_reachable hidle hreachable
  refine ⟨?_, ?_, ?_, ?_, ?_, ?_⟩
  · intro operation
    exact operation.perform_eq_run crowd.store
  · intro i caller index hcaller hnext hindex
    exact haccounted.exists_advance_iff hcaller hnext hindex
  · exact haccounted.exists_advance policy
  · intro i hunfinished
    exact haccounted.advances_or_waits policy hunfinished
  · intro caller _ index hnext hheld
    exact Nat.lt_irrefl _ (Caller.lt_of_mem_held hnext hheld)
  · exact crowd.not_transGen_waitsFor

/-- An idle store of three buckets. -/
def threeBuckets : BucketStore where
  hash key := if key = "b" then 1 else if key = "c" then 2 else 0
  slots := Array.replicate 3 ⟨∅, .free⟩

theorem idle_threeBuckets : threeBuckets.Idle := by
  intro slot hslot
  rw [(Array.mem_replicate.mp hslot).2]

/-- Four callers in a row, each of which waits for the one before it. What the last would share
is at present shared, but the third is in line to have it alone. -/
theorem calls_never_wait_in_circle_four_callers :
    ∃ crowd, Relation.ReflTransGen (Step .exclusiveFirst) ⟨threeBuckets, []⟩ crowd ∧
      crowd.WaitsFor crowd.exclusiveFirst 3 2 ∧ crowd.WaitsFor crowd.exclusiveFirst 2 1 ∧
      crowd.WaitsFor crowd.exclusiveFirst 1 0 ∧
      (∃ i next, crowd.Unfinished i ∧ Advance .exclusiveFirst crowd i next) ∧
      ¬ Relation.TransGen (crowd.WaitsFor crowd.exclusiveFirst) 3 3 := by
  have hstart : Relation.ReflTransGen (Step .exclusiveFirst) ⟨threeBuckets, []⟩
    ⟨threeBuckets, []⟩ := .refl
  -- The first takes both its buckets, the second takes one of its own and wants one of them.
  have hfirst := hstart.tail
    (.arrive ((Operation.multiPut ["c", "a", "c"] ["1", "2", "3"]).job threeBuckets))
  have htakesA := hfirst.tail (.advance (.take (i := 0) rfl rfl (by decide) rfl))
  have htakesC := htakesA.tail (.advance (.take (i := 0) rfl rfl (by decide) rfl))
  have hsecond := htakesC.tail (.arrive ((Operation.multiGet ["c", "b"]).job threeBuckets))
  have htakesB := hsecond.tail (.advance (.take (i := 1) rfl rfl (by decide) rfl))
  have hthird := htakesB.tail (.arrive ((Operation.append "b" "4").job threeBuckets))
  have hqueues := hthird.tail (.queue (i := 2) rfl)
  have hfourth := hqueues.tail (.arrive ((Operation.get "b").job threeBuckets))
  obtain ⟨-, -, hadvance, -, -, hacyclic⟩ := calls_never_wait_in_circle idle_threeBuckets hfourth
  refine ⟨_, hfourth, ?_, ?_, ?_, hadvance ?_, hacyclic _ 3⟩
  · exact ⟨_, _, 1, rfl, rfl, rfl, .inr ⟨rfl, by decide⟩⟩
  · exact ⟨_, _, 1, rfl, rfl, rfl, .inl (by decide)⟩
  · exact ⟨_, _, 2, rfl, rfl, rfl, .inl (by decide)⟩
  · exact ⟨0, _, rfl, Stage.noConfusion⟩

end Crowd

end Keyspace
