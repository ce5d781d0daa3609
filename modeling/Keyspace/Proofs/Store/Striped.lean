/-
# The striped store is a map

Every operation of a striped store, started between two operations, locks the buckets
of its keys, works on them, and leaves the store between two operations again, with its
contents changed as a plain map would be. Which hash spreads the keys does not matter,
nor how many of them meet in one bucket. A run of calls on a fresh striped store
therefore shows what it shows on the flat store.
-/

import Mathlib
import Keyspace.Proofs.Store.Lawful
import Keyspace.Proofs.Store.Placement
import Keyspace.Store.Striped

namespace Keyspace.BucketStore

variable {store : BucketStore} {access : Access} {key value : String} {index : Nat}
  {indices : List Nat}

/-! ## One key -/

/-- A look-up in the contents is one in the bucket of the key. -/
theorem Sound.lookup_contents (h : store.Sound) (key : String) :
    store.contents.lookup key = (store.bucket (store.indexOf key)).lookup key :=
  Contents.lookup_congr (h.getElem?_contents key)

theorem start_lookup (hlocked : index ∈ indices) (hbound : index < store.size) :
    (lookup ⟨access, (lockOrder indices).toArray⟩ key index).start
        (store.lockAll access (lockOrder indices)) =
      (((store.bucket index).lookup key).mapError .refused,
        store.lockAll access (lockOrder indices)) := by
  rw [lookup, Action.start_bind_ok (start_items hlocked hbound), Action.start_ofResult]

/-- An operation on one key asks for one existing bucket. -/
theorem Sound.bound_of_singleton (h : store.Sound) (key : String) :
    ∀ index ∈ [store.indexOf key], index < store.size := by
  intro index hindex
  rw [List.mem_singleton.mp hindex]
  exact h.indexOf_lt key

theorem start_get (h : store.Sound) (key : String) :
    (get key).start store = ((store.contents.lookup key).mapError .refused, store) := by
  rw [get, Action.start_bind_ok Action.start_get, h.lookup_contents]
  exact start_holding h.idle (h.bound_of_singleton key)
    (start_lookup (by simp) (h.indexOf_lt key)) h.idle

theorem start_put (h : store.Sound) (key value : String) :
    (put key value).start store = (.ok (), store.write key value) := by
  rw [put, Action.start_bind_ok Action.start_get]
  exact start_holding h.idle (h.bound_of_singleton key) (start_change (by simp) _) h.write.idle

theorem start_append (h : store.Sound) (key value : String) :
    (append key value).start store =
      (.ok (), store.write key (store.contents.getD key "" ++ value)) := by
  have hold : store.contents.getD key "" = (store.bucket (store.indexOf key)).getD key "" := by
    rw [Std.ExtTreeMap.getD_eq_getD_getElem?, Std.ExtTreeMap.getD_eq_getD_getElem?,
      h.getElem?_contents]
  rw [append, Action.start_bind_ok Action.start_get, hold]
  refine start_holding h.idle (h.bound_of_singleton key) ?_ h.write.idle
  rw [Action.start_bind_ok (start_items (by simp) (h.indexOf_lt key))]
  exact start_change (by simp) _

theorem start_delete (h : store.Sound) (key : String) :
    (delete key).start store =
      ((store.contents.lookup key).mapError .refused,
        if key ∈ store.contents then store.remove key else store) := by
  have hlookup : (lookup ⟨.exclusive, (lockOrder [store.indexOf key]).toArray⟩ key
      (store.indexOf key)).start (store.lockAll .exclusive (lockOrder [store.indexOf key])) =
        ((store.contents.lookup key).mapError .refused,
          store.lockAll .exclusive (lockOrder [store.indexOf key])) := by
    rw [h.lookup_contents]
    exact start_lookup (by simp) (h.indexOf_lt key)
  rw [delete, Action.start_bind_ok Action.start_get]
  by_cases hmem : key ∈ store.contents
  · rw [Contents.lookup_of_mem hmem] at hlookup ⊢
    rw [if_pos hmem]
    refine start_holding h.idle (h.bound_of_singleton key) ?_ h.remove.idle
    rw [Action.start_bind_ok hlookup, Action.start_bind_ok (start_change (by simp) _)]
    rfl
  · rw [Contents.lookup_of_not_mem hmem] at hlookup ⊢
    rw [if_neg hmem]
    refine start_holding h.idle (h.bound_of_singleton key) ?_ h.idle
    exact Action.start_bind_error hlookup _

/-! ## Several keys -/

/-- An operation on several keys asks for existing buckets. -/
theorem Sound.bound_of_map (h : store.Sound) (keys : List String) :
    ∀ index ∈ keys.map store.indexOf, index < store.size := by
  intro index hindex
  obtain ⟨key, -, rfl⟩ := List.mem_map.mp hindex
  exact h.indexOf_lt key

theorem start_multiGet (h : store.Sound) (keys : List String) :
    (multiGet keys).start store =
      ((keys.mapM store.contents.lookup).mapError .refused, store) := by
  rw [multiGet, Action.start_bind_ok Action.start_get]
  refine start_holding h.idle (h.bound_of_map keys) ?_ h.idle
  rw [← List.map_prod_left_eq_zip, List.mapM_map]
  apply Action.start_mapM
  intro key hkey
  rw [h.lookup_contents]
  exact start_lookup (List.mem_map_of_mem hkey) (h.indexOf_lt key)

/-- The store with pairs written in the buckets of their keys, one after another. -/
def writeAll (store : BucketStore) (pairs : List (String × String)) : BucketStore :=
  pairs.foldl (fun store pair => store.write pair.1 pair.2) store

theorem Sound.writeAll (h : store.Sound) (pairs : List (String × String)) :
    (store.writeAll pairs).Sound := by
  induction pairs generalizing store with
  | nil => exact h
  | cons pair pairs ih => exact ih h.write

theorem Sound.contents_writeAll (h : store.Sound) (pairs : List (String × String)) :
    (store.writeAll pairs).contents = store.contents.insertMany pairs := by
  induction pairs generalizing store with
  | nil => rfl
  | cons pair pairs ih =>
      rw [Std.ExtTreeMap.insertMany_cons, ← h.contents_write]
      exact ih h.write

/-- Pairs are written under the locks of their buckets. The buckets are found before the first
pair is written; writing does not move a key. -/
theorem start_forM_change (pairs : List (String × String))
    (hlocked : ∀ pair ∈ pairs, store.indexOf pair.1 ∈ indices) :
    ((pairs.map fun pair : String × String => (pair, store.indexOf pair.1)).forM
        fun ((key, value), index) =>
          LockSet.change ⟨access, (lockOrder indices).toArray⟩ index (·.insert key value)).start
        (store.lockAll access (lockOrder indices)) =
      (.ok (), (store.writeAll pairs).lockAll access (lockOrder indices)) := by
  induction pairs generalizing store with
  | nil => rfl
  | cons pair pairs ih =>
      rw [List.forall_mem_cons] at hlocked
      -- The rest was indexed in the store before this pair was written, which moved no key.
      have hkeep : ∀ key, (store.write pair.1 pair.2).indexOf key = store.indexOf key :=
        fun key => indexOf_modifyBucket key
      apply (Action.start_bind_ok (start_change hlocked.1 _) _).trans
      have hrest := @ih (store.write pair.1 pair.2) (by simpa only [hkeep] using hlocked.2)
      simp only [hkeep] at hrest
      exact hrest

theorem start_multiPut (h : store.Sound) {keys values : List String}
    (hlength : keys.length = values.length) :
    (multiPut keys values).start store = (.ok (), store.writeAll (keys.zip values)) := by
  rw [multiPut, if_pos hlength, Action.start_bind_ok Action.start_get]
  refine start_holding h.idle (h.bound_of_map keys) ?_ (h.writeAll _).idle
  have hindices : keys.map store.indexOf =
      (keys.zip values).map fun pair => store.indexOf pair.1 := by
    conv_lhs => rw [← List.map_fst_zip (Nat.le_of_eq hlength), List.map_map]
    rfl
  rw [hindices, ← List.map_prod_left_eq_zip, ← hindices]
  apply start_forM_change _
  intro pair hpair
  exact List.mem_map_of_mem (List.of_mem_zip hpair).1

theorem start_multiPut_of_ne {keys values : List String} (hlength : keys.length ≠ values.length) :
    (multiPut keys values).start store =
      (.error (.refused (.lengthMismatch keys.length values.length)), store) := by
  rw [multiPut, if_neg hlength]
  rfl

/-! ## All keys -/

/-- What the buckets hold, in the order in which their locks are taken. -/
def buckets (store : BucketStore) : List Contents :=
  (lockOrder (List.range store.size)).map store.bucket

/-- All buckets are read under the locks of all of them. -/
theorem start_mapM_items (store : BucketStore) (access : Access) :
    ((lockOrder (List.range store.size)).mapM
        (LockSet.items ⟨access, (lockOrder (List.range store.size)).toArray⟩)).start
        (store.lockAll access (lockOrder (List.range store.size))) =
      (.ok store.buckets, store.lockAll access (lockOrder (List.range store.size))) := by
  have hread : ∀ index ∈ lockOrder (List.range store.size),
      (LockSet.items ⟨access, (lockOrder (List.range store.size)).toArray⟩ index).start
          (store.lockAll access (lockOrder (List.range store.size))) =
        ((pure (store.bucket index) : KvResult Contents).mapError .refused,
          store.lockAll access (lockOrder (List.range store.size))) := by
    intro index hindex
    have hrange := mem_lockOrder.mp hindex
    exact start_items hrange (List.mem_range.mp hrange)
  rw [Action.start_mapM hread, List.mapM_pure]
  rfl

/-- Every key of the store is in one bucket. -/
theorem Sound.flatMap_keys_perm (h : store.Sound) :
    (store.buckets.flatMap (·.keys)).Perm store.contents.keys := by
  have hnodup : (store.buckets.flatMap (·.keys)).Nodup := by
    rw [buckets, List.flatMap_map, List.nodup_flatMap]
    refine ⟨fun _ _ => Std.ExtTreeMap.nodup_keys, ?_⟩
    refine (nodup_lockOrder _).imp fun {first second} hne key hfirst hsecond => hne ?_
    rw [Std.ExtTreeMap.mem_keys] at hfirst hsecond
    exact (h.placed first key hfirst).symm.trans (h.placed second key hsecond)
  apply (List.perm_ext_iff_of_nodup hnodup Std.ExtTreeMap.nodup_keys).mpr
  intro key
  rw [buckets, List.flatMap_map, List.mem_flatMap, Std.ExtTreeMap.mem_keys]
  constructor
  · rintro ⟨index, -, hkey⟩
    rw [Std.ExtTreeMap.mem_keys] at hkey
    rwa [h.mem_contents, h.placed index key hkey]
  · intro hkey
    refine ⟨store.indexOf key, mem_lockOrder.mpr (List.mem_range.mpr (h.indexOf_lt key)), ?_⟩
    rw [Std.ExtTreeMap.mem_keys]
    exact h.mem_contents.mp hkey

theorem start_allKeys (h : store.Sound) :
    allKeys.start store = (.ok (store.buckets.flatMap (·.keys)), store) := by
  rw [allKeys, holdingEvery, Action.start_bind_ok Action.start_get]
  refine start_holding h.idle (fun _ => List.mem_range.mp) ?_ h.idle
  exact Action.start_bind_ok (start_mapM_items store .shared) _

/-- Summing over the buckets counts every key. -/
theorem foldl_size_eq_length (buckets : List Contents) (count : Nat) :
    buckets.foldl (fun count items => count + items.size) count =
      count + (buckets.flatMap (·.keys)).length := by
  induction buckets generalizing count with
  | nil => rfl
  | cons items buckets ih =>
      rw [List.foldl_cons, ih, List.flatMap_cons, List.length_append,
        Std.ExtTreeMap.length_keys, Nat.add_assoc]

theorem start_len (h : store.Sound) : len.start store = (.ok store.contents.size, store) := by
  have hcount : store.buckets.foldl (fun count items => count + items.size) 0 =
      store.contents.size := by
    rw [foldl_size_eq_length, Nat.zero_add, h.flatMap_keys_perm.length_eq,
      Std.ExtTreeMap.length_keys]
  rw [len, holdingEvery, Action.start_bind_ok Action.start_get]
  refine start_holding h.idle (fun _ => List.mem_range.mp) ?_ h.idle
  rw [← hcount]
  exact Action.start_bind_ok (start_mapM_items store .shared) _

/-! ## The store as a whole -/

/-- A striped store between two operations is a map, whatever the hash. -/
theorem lawful : KvStore.Lawful Sound where
  get := fun h key => .of_eq (start_get h key) h rfl
  put := fun h key value => .of_eq (start_put h key value) h.write h.contents_write
  append := fun h key value => .of_eq (start_append h key value) h.write h.contents_write
  delete := by
    intro store h key
    apply KvStore.Ends.of_eq (start_delete h key)
    · split_ifs
      · exact h.remove
      · exact h
    · split_ifs with hmem
      · exact h.contents_remove
      · exact (Contents.erase_of_not_mem hmem).symm
  multiGet := fun h keys => .of_eq (start_multiGet h keys) h rfl
  multiPut := fun h keys values hlength =>
    .of_eq (start_multiPut h hlength) (h.writeAll _) (h.contents_writeAll _)
  multiPut_of_ne := fun h keys values hlength => .of_eq (start_multiPut_of_ne hlength) h rfl
  allKeys := fun h => ⟨_, h.flatMap_keys_perm, .of_eq (start_allKeys h) h rfl⟩
  len := fun h => .of_eq (start_len h) h rfl

/-- A run of calls on a fresh striped store shows what it shows on an empty flat store: the same
outcome of every call, lists of all keys up to their order, and the same contents after it. -/
theorem striped_refines_flat (hash : String → UInt64) {count : Nat} (hpos : 0 < count) :
    ∃ store, ofCount hash count = .ok store ∧
      KvStore.contents store = KvStore.contents FlatStore.empty ∧
      ∀ calls, List.Forall₂ (fun first second => SameOutcome first.1 second.1 ∧ first.2 = second.2)
        (Operation.trace calls store) (Operation.trace calls FlatStore.empty) := by
  obtain ⟨store, hstore, hsound, hcontents⟩ := exists_ofCount hash hpos
  refine ⟨store, hstore, hcontents, fun calls => ?_⟩
  exact lawful.forall₂_trace FlatStore.lawful hsound trivial hcontents calls

/-- Under a constant hash all keys meet in one of three buckets. Repeated keys, absent keys and
lists of different lengths make no difference. -/
theorem striped_refines_flat_colliding :
    let calls : List Operation :=
      [.multiPut ["a", "b", "a"] ["1", "2", "3"], .multiGet ["b", "a", "b"], .append "b" "4",
        .multiPut ["c"] [], .delete "a", .multiGet ["b", "c", "a"], .allKeys, .len, .isEmpty]
    0 < 3 ∧ ∃ store, ofCount (fun _ => 7) 3 = .ok store ∧
      KvStore.contents store = KvStore.contents FlatStore.empty ∧
      List.Forall₂ (fun first second => SameOutcome first.1 second.1 ∧ first.2 = second.2)
        (Operation.trace calls store) (Operation.trace calls FlatStore.empty) := by
  intro calls
  have hpos : 0 < 3 := by decide
  obtain ⟨store, hstore, hcontents, hruns⟩ := striped_refines_flat (fun _ => 7) hpos
  exact ⟨hpos, store, hstore, hcontents, hruns calls⟩

end Keyspace.BucketStore
