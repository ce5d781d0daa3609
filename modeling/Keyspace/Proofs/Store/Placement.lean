/-
# Every key is in its bucket

A bucket store at rest holds no locks and keeps every key in the bucket that the hash
sends it to. What all buckets hold together is then seen one key at a time: look into
the bucket of the key, and nowhere else. Writing or erasing a key in its bucket keeps
the store at rest and changes what the whole store holds in the same way.
-/

import Mathlib
import Keyspace.Proofs.Store.Contents
import Keyspace.Proofs.Store.Locking
import Keyspace.Proofs.TreeMap

namespace Keyspace.BucketStore

open Contents (ActsOn actsOn_insert actsOn_erase)

variable {store : BucketStore} {key other value : String} {index : Nat}
  {change : Contents → Contents}

/-- A store between two operations: it has buckets, nobody holds a lock, and every key is in the
bucket that the hash sends it to. -/
structure Sound (store : BucketStore) : Prop where
  nonempty : 0 < store.size
  idle : store.Idle
  placed : ∀ index key, key ∈ store.bucket index → store.indexOf key = index

theorem Sound.indexOf_lt (h : store.Sound) (key : String) : store.indexOf key < store.size :=
  Nat.mod_lt _ h.nonempty

/-! ## The contents of a store -/

/-- Of two maps written one over the other the second decides where it has the key. -/
theorem getElem?_insertMany_toList (first second : Contents) :
    (first.insertMany second.toList)[key]? = (second[key]?).or first[key]? := by
  cases hsecond : second[key]? with
  | some value =>
      exact Std.ExtTreeMap.getElem?_insertMany_list_of_mem Std.ReflCmp.compare_self
        Std.ExtTreeMap.distinct_keys_toList
        (Std.ExtTreeMap.mem_toList_iff_getElem?_eq_some.mpr hsecond)
  | none =>
      refine Std.ExtTreeMap.getElem?_insertMany_list_of_contains_eq_false ?_
      rw [Std.ExtTreeMap.map_fst_toList_eq_keys, Std.ExtTreeMap.contains_keys,
        ← Std.ExtTreeMap.isSome_getElem?_eq_contains, hsecond]
      rfl

/-- Where all slots that have the key agree on its value, so does the union of the slots. -/
theorem getElem?_union {slots : List Slot} {found : Option String} {all : Contents}
    (hagree : ∀ slot ∈ slots, slot.items[key]? = none ∨ slot.items[key]? = found)
    (hfound : all[key]? = found ∨
      all[key]? = none ∧ ∃ slot ∈ slots, slot.items[key]? = found) :
    (slots.foldl (fun all slot => all.insertMany slot.items.toList) all)[key]? = found := by
  induction slots generalizing all with
  | nil => simpa using hfound
  | cons slot slots ih =>
      rw [List.forall_mem_cons] at hagree
      apply ih hagree.2
      rw [getElem?_insertMany_toList]
      rcases hagree.1 with hslot | hslot
      · rw [hslot, Option.none_or]
        rcases hfound with hall | ⟨hall, holder, hholder, hvalue⟩
        · exact .inl hall
        · rcases List.mem_cons.mp hholder with rfl | hholder
          · exact .inl (by rw [hall, ← hvalue, hslot])
          · exact .inr ⟨hall, holder, hholder, hvalue⟩
      · cases found with
        | some value => exact .inl (by rw [hslot]; rfl)
        | none =>
            rw [hslot, Option.none_or]
            rcases hfound with hall | ⟨hall, -⟩
            · exact .inl hall
            · exact .inl hall

/-- The store holds for a key what the bucket of the key holds for it. -/
theorem Sound.getElem?_contents (h : store.Sound) (key : String) :
    store.contents[key]? = (store.bucket (store.indexOf key))[key]? := by
  have hlt := h.indexOf_lt key
  have hslot : store.slots[store.indexOf key]? = some store.slots[store.indexOf key] :=
    Array.getElem?_eq_getElem hlt
  rw [contents, ← Array.foldl_toList]
  refine getElem?_union ?_
    (.inr ⟨Std.ExtTreeMap.getElem?_empty, _, Array.getElem_mem_toList hlt, ?_⟩)
  · intro slot hmem
    obtain ⟨index, hindex⟩ := List.mem_iff_getElem?.mp hmem
    rw [Array.getElem?_toList] at hindex
    have hbucket : store.bucket index = slot.items := by rw [bucket, hindex]; rfl
    by_cases hkey : key ∈ slot.items
    · right
      rw [h.placed index key (hbucket ▸ hkey), hbucket]
    · left
      exact Std.ExtTreeMap.getElem?_eq_none hkey
  · rw [bucket, hslot]
    rfl

/-- The contents have a key if its bucket does. -/
theorem Sound.mem_contents (h : store.Sound) :
    key ∈ store.contents ↔ key ∈ store.bucket (store.indexOf key) := by
  rw [Std.ExtTreeMap.mem_iff_isSome_getElem?, h.getElem?_contents,
    ← Std.ExtTreeMap.mem_iff_isSome_getElem?]

/-! ## Changing one key -/

theorem bucket_modifyBucket (hbound : index < store.size) (other : Nat) :
    (store.modifyBucket index change).bucket other =
      if index = other then change (store.bucket other) else store.bucket other := by
  rw [bucket, modifyBucket, getElem?_modifySlot, bucket]
  by_cases heq : index = other
  · subst heq
    rw [Array.getElem?_eq_getElem hbound]
    simp
  · cases store.slots[other]? <;> simp [heq]

theorem indexOf_modifyBucket (key : String) :
    (store.modifyBucket index change).indexOf key = store.indexOf key := by
  rw [indexOf, modifyBucket, size_modifySlot]
  rfl

/-- Changing the contents of a bucket takes no lock. -/
theorem Idle.modifyBucket (h : store.Idle) : (store.modifyBucket index change).Idle := by
  intro slot hslot
  obtain ⟨other, hother⟩ := Array.mem_iff_getElem?.mp hslot
  rw [BucketStore.modifyBucket, getElem?_modifySlot, Option.map_eq_some_iff] at hother
  obtain ⟨before, hbefore, rfl⟩ := hother
  have hfree := h before (Array.mem_of_getElem? hbefore)
  split_ifs
  · exact hfree
  · exact hfree

/-- A change of one key, made in the bucket of the key, keeps the store at rest. -/
theorem Sound.modifyBucket (h : store.Sound) (hacts : ActsOn key change) :
    (store.modifyBucket (store.indexOf key) change).Sound where
  nonempty := by
    rw [BucketStore.modifyBucket, size_modifySlot]
    exact h.nonempty
  idle := h.idle.modifyBucket
  placed := by
    intro index other hother
    rw [indexOf_modifyBucket]
    rw [bucket_modifyBucket (h.indexOf_lt key)] at hother
    split_ifs at hother with hindex
    · by_cases hkey : other = key
      · rw [hkey, hindex]
      · rw [Std.ExtTreeMap.mem_iff_isSome_getElem?, hacts.elsewhere _ _ hkey,
          ← Std.ExtTreeMap.mem_iff_isSome_getElem?] at hother
        exact h.placed index other hother
    · exact h.placed index other hother

/-- The contents change as the bucket does. -/
theorem Sound.getElem?_contents_modifyBucket (h : store.Sound) (hacts : ActsOn key change) :
    (store.modifyBucket (store.indexOf key) change).contents[other]? =
      if other = key then (change (store.bucket (store.indexOf key)))[key]?
      else store.contents[other]? := by
  rw [(h.modifyBucket hacts).getElem?_contents, indexOf_modifyBucket,
    bucket_modifyBucket (h.indexOf_lt key)]
  by_cases hkey : other = key
  · subst hkey
    rw [if_pos rfl, if_pos rfl]
  · rw [if_neg hkey, h.getElem?_contents other]
    split_ifs with hindex
    · exact hacts.elsewhere _ _ hkey
    · rfl

/-- The store with a key written in its bucket. -/
def write (store : BucketStore) (key value : String) : BucketStore :=
  store.modifyBucket (store.indexOf key) (·.insert key value)

/-- The store with a key erased from its bucket. -/
def remove (store : BucketStore) (key : String) : BucketStore :=
  store.modifyBucket (store.indexOf key) (·.erase key)

theorem Sound.write (h : store.Sound) : (store.write key value).Sound :=
  h.modifyBucket (actsOn_insert key value)

theorem Sound.remove (h : store.Sound) : (store.remove key).Sound :=
  h.modifyBucket (actsOn_erase key)

/-- Writing in the bucket is writing in the contents. -/
theorem Sound.contents_write (h : store.Sound) :
    (store.write key value).contents = store.contents.insert key value := by
  apply Std.ExtTreeMap.ext_getElem?
  intro other
  rw [BucketStore.write, h.getElem?_contents_modifyBucket (actsOn_insert key value)]
  split_ifs with hkey
  · rw [hkey, Std.ExtTreeMap.getElem?_insert_self, Std.ExtTreeMap.getElem?_insert_self]
  · exact ((actsOn_insert key value).elsewhere _ _ hkey).symm

/-- Erasing from the bucket is erasing from the contents. -/
theorem Sound.contents_remove (h : store.Sound) :
    (store.remove key).contents = store.contents.erase key := by
  apply Std.ExtTreeMap.ext_getElem?
  intro other
  rw [BucketStore.remove, h.getElem?_contents_modifyBucket (actsOn_erase key)]
  split_ifs with hkey
  · rw [hkey, Std.ExtTreeMap.getElem?_erase_self, Std.ExtTreeMap.getElem?_erase_self]
  · exact ((actsOn_erase key).elsewhere _ _ hkey).symm

/-! ## Fresh stores -/

/-- A store of at least one bucket starts out empty and at rest. -/
theorem exists_ofCount (hash : String → UInt64) {count : Nat} (hpos : 0 < count) :
    ∃ store, ofCount hash count = .ok store ∧ store.Sound ∧ store.contents = ∅ := by
  let fresh : BucketStore := ⟨hash, Array.replicate count ⟨∅, .free⟩⟩
  have hbucket : ∀ index, fresh.bucket index = ∅ := by
    intro index
    show (((Array.replicate count (⟨∅, .free⟩ : Slot))[index]?).map (·.items)).getD ∅ = ∅
    rw [Array.getElem?_replicate]
    split_ifs <;> rfl
  have hsound : fresh.Sound := by
    refine ⟨?_, ?_, ?_⟩
    · show 0 < (Array.replicate count (⟨∅, .free⟩ : Slot)).size
      rwa [Array.size_replicate]
    · intro slot hslot
      rw [(Array.mem_replicate.mp hslot).2]
    · intro index key hkey
      rw [hbucket] at hkey
      exact absurd hkey Std.ExtTreeMap.not_mem_empty
  refine ⟨fresh, if_neg (Nat.ne_of_gt hpos), hsound, ?_⟩
  apply Std.ExtTreeMap.ext_getElem?
  intro key
  rw [hsound.getElem?_contents, hbucket]

/-- A store as it is made is empty and at rest. -/
theorem sound_and_empty_of_ofCount {hash : String → UInt64} {count : Nat}
    (h : ofCount hash count = .ok store) : store.Sound ∧ store.contents = ∅ := by
  have hpos : 0 < count := by
    by_contra hnot
    obtain rfl := Nat.eq_zero_of_not_pos hnot
    cases h
  obtain ⟨fresh, hfresh, hsound, hempty⟩ := exists_ofCount hash hpos
  cases h.symm.trans hfresh
  exact ⟨hsound, hempty⟩

end Keyspace.BucketStore
