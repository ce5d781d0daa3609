/-
# Every key is counted once

No call moves a key or changes how keys are spread over the buckets. So after every run
of calls a key can only be in the bucket that the hash and the number of buckets the
store was made with send it to, and is in no other. Listing the keys bucket by bucket
therefore lists every key that can be read once and nothing else, and adding up the
sizes of the buckets counts these keys.
-/

import Mathlib
import Keyspace.Proofs.Store.Replay

namespace Keyspace.BucketStore

open Operation (afterCalls)

variable {store first second third : BucketStore} {key value : String}
  {change : Contents → Contents} {index : Nat}

/-! ## How keys are spread -/

/-- Both stores send every key to the same bucket, out of the same number of them. -/
structure SameSpread (first second : BucketStore) : Prop where
  hash_eq : second.hash = first.hash
  size_eq : second.size = first.size

theorem SameSpread.refl (store : BucketStore) : SameSpread store store := ⟨rfl, rfl⟩

theorem SameSpread.trans (h : SameSpread first second) (h' : SameSpread second third) :
    SameSpread first third :=
  ⟨h'.hash_eq.trans h.hash_eq, h'.size_eq.trans h.size_eq⟩

theorem SameSpread.indexOf_eq (h : SameSpread first second) (key : String) :
    second.indexOf key = first.indexOf key := by
  rw [indexOf, h.hash_eq, h.size_eq, indexOf]

/-- Changing what a bucket holds does not change how keys are spread. -/
theorem sameSpread_modifyBucket : SameSpread store (store.modifyBucket index change) :=
  ⟨rfl, size_modifySlot _⟩

theorem sameSpread_writeAll (pairs : List (String × String)) :
    SameSpread store (store.writeAll pairs) := by
  induction pairs generalizing store with
  | nil => exact .refl store
  | cons pair pairs ih => exact sameSpread_modifyBucket.trans ih

/-- What is made of the result of an action does not matter. -/
theorem SameSpread.of_start {α β : Type} {action : Action BucketStore α}
    {outcome : Except Failure α} (hstart : action.start first = (outcome, second))
    (h : SameSpread first second) (f : α → β) :
    SameSpread first ((f <$> action).start first).2 := by
  rw [Action.start_map, hstart]
  exact h

/-- No call changes how keys are spread. -/
theorem Sound.sameSpread_perform (h : store.Sound) (call : Operation) :
    SameSpread store (call.perform.start store).2 := by
  cases call with
  | get key => exact .of_start (start_get h key) (.refl store) _
  | put key value => exact .of_start (start_put h key value) sameSpread_modifyBucket _
  | append key value => exact .of_start (start_append h key value) sameSpread_modifyBucket _
  | delete key =>
      refine .of_start (start_delete h key) ?_ _
      split_ifs
      · exact sameSpread_modifyBucket
      · exact .refl store
  | multiGet keys => exact .of_start (start_multiGet h keys) (.refl store) _
  | multiPut keys values =>
      by_cases hlength : keys.length = values.length
      · exact .of_start (start_multiPut h hlength) (sameSpread_writeAll _) _
      · exact .of_start (start_multiPut_of_ne hlength) (.refl store) _
  | allKeys => exact .of_start (start_allKeys h) (.refl store) _
  | len => exact .of_start (start_len h) (.refl store) _
  | isEmpty => exact .of_start (start_len h) (.refl store) _

/-- A run of calls leaves a sound store that spreads keys as before. -/
theorem Sound.afterCalls (h : store.Sound) (calls : List Operation) :
    (afterCalls calls store).Sound ∧ SameSpread store (afterCalls calls store) := by
  induction calls generalizing store with
  | nil => exact ⟨h, .refl store⟩
  | cons call calls ih =>
      obtain ⟨hsound, hspread⟩ := ih (lawful.contents_eq_replay h call).1
      exact ⟨hsound, (h.sameSpread_perform call).trans hspread⟩

/-! ## Counting keys -/

/-- A key can be read exactly if the store holds it. -/
theorem Sound.exists_get_eq_ok_iff (h : store.Sound) :
    (∃ value, ((get key).start store).1 = .ok value) ↔ key ∈ store.contents := by
  rw [start_get h]
  constructor
  · rintro ⟨value, hvalue⟩
    by_contra hnot
    rw [Contents.lookup_of_not_mem hnot] at hvalue
    cases hvalue
  · intro hmem
    rw [Contents.lookup_of_mem hmem]
    exact ⟨_, rfl⟩

/-- The keys that a sound store lists are those that can be read, each of them once, and it counts
as many as it lists. -/
theorem Sound.exists_allKeys (h : store.Sound) :
    ∃ keys, (allKeys.start store).1 = .ok keys ∧ keys.Nodup ∧
      (∀ key, key ∈ keys ↔ ∃ value, ((get key).start store).1 = .ok value) ∧
      (len.start store).1 = .ok keys.length := by
  have hperm := h.flatMap_keys_perm
  refine ⟨_, by rw [start_allKeys h], hperm.nodup_iff.mpr Std.ExtTreeMap.nodup_keys, ?_, ?_⟩
  · intro key
    rw [hperm.mem_iff, Std.ExtTreeMap.mem_keys, h.exists_get_eq_ok_iff]
  · rw [start_len h, hperm.length_eq, Std.ExtTreeMap.length_keys]

/-- After every run of calls on a fresh striped store, of any number of buckets under any hash,
every key is in the bucket that the hash sends it to, and so in one bucket at most. The keys listed
are those that can be read, each of them once, and their number is what the store counts. -/
theorem counts_every_key_once (hash : String → UInt64) {count : Nat} (hpos : 0 < count) :
    ∃ fresh, ofCount hash count = .ok fresh ∧ ∀ calls,
      let reached := afterCalls calls fresh
      (∀ key, reached.indexOf key = (hash key).toNat % count) ∧
      (∀ (index : Nat) slot key, reached.slots[index]? = some slot → key ∈ slot.items →
        reached.indexOf key = index ∧ index < count) ∧
      (∀ (first second : Nat) slot slot' key, reached.slots[first]? = some slot →
        reached.slots[second]? = some slot' → key ∈ slot.items → key ∈ slot'.items →
          first = second) ∧
      ∃ keys, (allKeys.start reached).1 = .ok keys ∧ keys.Nodup ∧
        (∀ key, key ∈ keys ↔ ∃ value, ((get key).start reached).1 = .ok value) ∧
        (len.start reached).1 = .ok keys.length ∧
        {key | ∃ value, ((get key).start reached).1 = .ok value}.ncard = keys.length := by
  obtain ⟨fresh, hfresh, hsound, -⟩ := exists_ofCount hash hpos
  refine ⟨fresh, hfresh, fun calls => ?_⟩
  intro reached
  obtain ⟨hreached, hspread⟩ := hsound.afterCalls calls
  have hhash : fresh.hash = hash ∧ fresh.size = count := by
    rw [ofCount, if_neg (Nat.ne_of_gt hpos)] at hfresh
    cases hfresh
    exact ⟨rfl, Array.size_replicate⟩
  have hindexOf : ∀ key, reached.indexOf key = (hash key).toNat % count := by
    intro key
    rw [hspread.indexOf_eq, indexOf, hhash.1, hhash.2]
  have hplaced : ∀ (index : Nat) slot key, reached.slots[index]? = some slot →
      key ∈ slot.items → reached.indexOf key = index := by
    intro index slot key hslot hkey
    refine hreached.placed index key ?_
    rw [bucket, hslot]
    exact hkey
  obtain ⟨keys, hkeys, hnodup, hmem, hlen⟩ := hreached.exists_allKeys
  refine ⟨hindexOf, ?_, ?_, keys, hkeys, hnodup, hmem, hlen, ?_⟩
  · intro index slot key hslot hkey
    have hindex := hplaced index slot key hslot hkey
    refine ⟨hindex, ?_⟩
    rw [← hindex, hindexOf]
    exact Nat.mod_lt _ hpos
  · intro first second slot slot' key hslot hslot' hkey hkey'
    exact (hplaced first slot key hslot hkey).symm.trans (hplaced second slot' key hslot' hkey')
  · have hset : {key | ∃ value, ((get key).start reached).1 = .ok value} =
        (keys.toFinset : Set String) := by
      ext key
      rw [Finset.mem_coe, List.mem_toFinset, hmem]
      rfl
    rw [hset, Set.ncard_coe_finset, List.toFinset_card_of_nodup hnodup]

/-- All keys meet in the second of three buckets. One of them is written twice, one is deleted, one
is appended to, and a write of too few values is refused. -/
theorem counts_every_key_once_colliding :
    let calls : List Operation :=
      [.multiPut ["a", "b", "a"] ["1", "2", "3"], .append "c" "4", .multiPut ["d"] [],
        .delete "b"]
    0 < 3 ∧ ∃ fresh, ofCount (fun _ => 7) 3 = .ok fresh ∧
      let reached := afterCalls calls fresh
      (∀ (index : Nat) slot key, reached.slots[index]? = some slot → key ∈ slot.items →
        reached.indexOf key = index ∧ index < 3) ∧
      ∃ keys, (allKeys.start reached).1 = .ok keys ∧ keys.Nodup ∧
        (len.start reached).1 = .ok keys.length ∧ "a" ∈ keys := by
  intro calls
  have hpos : 0 < 3 := by decide
  obtain ⟨fresh, hfresh, hruns⟩ := counts_every_key_once (fun _ => 7) hpos
  obtain ⟨-, hplaced, -, keys, hkeys, hnodup, hmem, hlen, -⟩ := hruns calls
  refine ⟨hpos, fresh, hfresh, hplaced, keys, hkeys, hnodup, hlen, (hmem "a").mpr ?_⟩
  cases hfresh
  exact ⟨"3", by decide +kernel⟩

end Keyspace.BucketStore
