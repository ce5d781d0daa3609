/-
# Every bucket that was asked for is found

The locks of a set are taken in strictly ascending order of their buckets, each bucket
that was asked for once and no other. Halving therefore finds a bucket in the set
exactly if it was asked for, and what is found is that bucket and no other.
-/

import Mathlib
import Keyspace.Store.LockSet

namespace Keyspace

variable {index other : Nat} {indices : List Nat}

theorem mem_insertIndex : other ∈ insertIndex index indices ↔ other = index ∨ other ∈ indices := by
  induction indices with
  | nil => simp [insertIndex]
  | cons first rest ih =>
      unfold insertIndex
      split_ifs with hless heq
      · exact List.mem_cons
      · rw [heq, List.mem_cons]
        tauto
      · rw [List.mem_cons, ih, List.mem_cons]
        tauto

/-- Inserting keeps the ascending order. -/
theorem pairwise_insertIndex (h : indices.Pairwise (· < ·)) :
    (insertIndex index indices).Pairwise (· < ·) := by
  induction indices with
  | nil => exact List.pairwise_singleton _ _
  | cons first rest ih =>
      obtain ⟨hfirst, hrest⟩ := List.pairwise_cons.mp h
      unfold insertIndex
      split_ifs with hless heq
      · refine List.pairwise_cons.mpr ⟨?_, h⟩
        intro other hother
        rcases List.mem_cons.mp hother with rfl | hother
        · exact hless
        · exact Nat.lt_trans hless (hfirst other hother)
      · exact h
      · refine List.pairwise_cons.mpr ⟨?_, ih hrest⟩
        intro other hother
        rcases mem_insertIndex.mp hother with rfl | hother
        · omega
        · exact hfirst other hother

/-- The locks to take are those of the buckets asked for. -/
theorem mem_lockOrder : index ∈ lockOrder indices ↔ index ∈ indices := by
  induction indices with
  | nil => exact Iff.rfl
  | cons first rest ih =>
      rw [lockOrder, List.foldr_cons, mem_insertIndex, List.mem_cons]
      exact or_congr_right ih

/-- They are taken in ascending order, each of them once. -/
theorem pairwise_lockOrder (indices : List Nat) : (lockOrder indices).Pairwise (· < ·) := by
  induction indices with
  | nil => exact .nil
  | cons first rest ih => exact pairwise_insertIndex ih

theorem nodup_lockOrder (indices : List Nat) : (lockOrder indices).Nodup :=
  (pairwise_lockOrder indices).imp Nat.ne_of_lt

namespace LockSet

variable {held : Array Nat} {low high position : Nat}

/-- What halving returns is a position of the index. -/
theorem getElem?_of_search (h : search held index low high = some position) :
    held[position]? = some index := by
  fun_induction search held index low high with
  | case1 => cases h
  | case2 low high hlt middle hfound => exact Option.some.inj h ▸ hfound
  | case3 low high hlt middle found hfound hne hless ih => exact ih h
  | case4 low high hlt middle found hfound hne hless ih => exact ih h
  | case5 => cases h

/-- Halving finds whatever stands between its bounds in an ascending list. -/
theorem isSome_search (hascending : held.toList.Pairwise (· < ·)) (hlow : low ≤ position)
    (hhigh : position < high) (hsize : high ≤ held.size)
    (hposition : held[position]? = some index) : (search held index low high).isSome := by
  have hordered : ∀ {i j x y : Nat}, held[i]? = some x → held[j]? = some y → i < j → x < y := by
    intro i j x y hi hj hij
    rw [← Array.getElem?_toList] at hi hj
    obtain ⟨hi', rfl⟩ := List.getElem?_eq_some_iff.mp hi
    obtain ⟨hj', rfl⟩ := List.getElem?_eq_some_iff.mp hj
    exact List.pairwise_iff_getElem.mp hascending i j hi' hj' hij
  fun_induction search held index low high with
  | case1 low high hlt middle hnone =>
      rw [Array.getElem?_eq_none_iff] at hnone
      omega
  | case2 => rfl
  | case3 low high hlt middle found hfound hne hless ih =>
      -- What is found is smaller than the index, so the index stands behind it.
      refine ih ?_ hhigh hsize
      by_contra hnot
      rcases Nat.lt_or_eq_of_le (Nat.le_of_not_lt hnot) with hbefore | heq
      · have hgreater := hordered hposition hfound hbefore
        omega
      · rw [heq, hfound] at hposition
        exact hne (Option.some.inj hposition)
  | case4 low high hlt middle found hfound hne hless ih =>
      refine ih hlow ?_ (by omega)
      by_contra hnot
      rcases Nat.lt_or_eq_of_le (Nat.le_of_not_lt hnot) with hafter | heq
      · have hsmaller := hordered hfound hposition hafter
        omega
      · rw [← heq, hfound] at hposition
        exact hne (Option.some.inj hposition)
  | case5 low high hnot => omega

/-- A set finds exactly the buckets that it was asked to lock. -/
theorem isSome_position?_iff (access : Access) :
    (position? ⟨access, (lockOrder indices).toArray⟩ index).isSome ↔ index ∈ indices := by
  constructor
  · intro h
    obtain ⟨position, hposition⟩ := Option.isSome_iff_exists.mp h
    have hmem := Array.mem_of_getElem? (getElem?_of_search hposition)
    exact mem_lockOrder.mp (List.mem_toArray.mp hmem)
  · intro h
    obtain ⟨position, hposition⟩ := List.mem_iff_getElem?.mp (mem_lockOrder.mpr h)
    have hlt : position < (lockOrder indices).length :=
      (List.getElem?_eq_some_iff.mp hposition).1
    exact isSome_search (pairwise_lockOrder indices) (Nat.zero_le _) hlt (Nat.le_refl _)
      (by simpa using hposition)

/-- A bucket that was asked for is found, at the place that it has in the order. -/
theorem exists_position? (access : Access) (h : index ∈ indices) :
    ∃ position, position? ⟨access, (lockOrder indices).toArray⟩ index = some position ∧
      (lockOrder indices)[position]? = some index := by
  obtain ⟨position, hposition⟩ :=
    Option.isSome_iff_exists.mp ((isSome_position?_iff access).mpr h)
  have hplace := getElem?_of_search hposition
  rw [List.getElem?_toArray] at hplace
  exact ⟨position, hposition, hplace⟩

/-- The bucket at the position that is found for an index is the one that was asked for. -/
theorem bucket_eq_pure (access : Access) (h : index ∈ indices) :
    bucket ⟨access, (lockOrder indices).toArray⟩ index = pure index := by
  obtain ⟨position, hposition, hplace⟩ := exists_position? access h
  simp only [bucket, hposition, List.getElem?_toArray, hplace]

/-- A bucket that was not asked for is not found. -/
theorem bucket_eq_crash (access : Access) (h : index ∉ indices) :
    bucket ⟨access, (lockOrder indices).toArray⟩ index = Action.crash (.notLocked index) := by
  have hnone : position? ⟨access, (lockOrder indices).toArray⟩ index = none :=
    Option.not_isSome_iff_eq_none.mp fun hsome => h ((isSome_position?_iff access).mp hsome)
  rw [bucket, hnone]

end LockSet

end Keyspace
