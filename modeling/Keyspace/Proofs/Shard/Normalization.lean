/-
# Normalization keeps the cover and makes it canonical

Normalizing a list of valid shards leaves a canonical list that covers the same hashes.
The sweep merges a shard into the growing one exactly if no hash lies between them; the
test for that saturates at the greatest hash, where nothing can lie between.
-/

import Mathlib
import Keyspace.Proofs.Shard.Subtraction

namespace Keyspace.Shard

variable {hash : UInt32} {s t last p : Shard} {shards rest : List Shard}

/-! ## The order of shards -/

/-- The order of shards looks at the lower bounds first. -/
theorem precedes_iff :
    precedes s t ↔ s.lower < t.lower ∨ s.lower = t.lower ∧ s.upper ≤ t.upper := by
  show ((compare s.lower t.lower).then (compare s.upper t.upper)).isLE ↔ _
  rw [Ordering.isLE_then_iff_or, Std.compare_eq_lt, Std.LawfulEqCmp.compare_eq_iff_eq,
    Std.isLE_compare]

theorem precedes_trans (s t p : Shard) (hst : precedes s t) (htp : precedes t p) :
    precedes s p := by
  rw [precedes_iff] at *
  grind

theorem precedes_total (s t : Shard) : (precedes s t || precedes t s) = true := by
  rw [Bool.or_eq_true, precedes_iff, precedes_iff]
  grind

/-- The shards start in ascending order. -/
def Sorted (shards : List Shard) : Prop :=
  shards.Pairwise fun s t => s.lower.toNat ≤ t.lower.toNat

theorem sorted_mergeSort (shards : List Shard) : Sorted (shards.mergeSort precedes) := by
  apply (List.pairwise_mergeSort precedes_trans precedes_total shards).imp
  intro s t h
  rcases precedes_iff.mp h with hlt | ⟨heq, -⟩
  · exact Nat.le_of_lt (UInt32.lt_iff_toNat_lt.mp hlt)
  · exact heq ▸ Nat.le_refl _

/-- The first of sorted shards starts no later than the second. -/
theorem Sorted.first_le (h : Sorted (last :: s :: rest)) : last.lower.toNat ≤ s.lower.toNat :=
  (List.pairwise_cons.mp h).1 s (by simp)

theorem Sorted.tail (h : Sorted (last :: rest)) : Sorted rest :=
  (List.pairwise_cons.mp h).2

/-- Sorted shards stay sorted when the second joins the first, wherever that then ends. -/
theorem Sorted.join (h : Sorted (last :: s :: rest)) (upper : UInt32) :
    Sorted (⟨last.lower, upper⟩ :: rest) := by
  obtain ⟨hfirst, hrest⟩ := List.pairwise_cons.mp h
  refine List.pairwise_cons.mpr ⟨?_, (List.pairwise_cons.mp hrest).2⟩
  intro t ht
  exact hfirst t (List.mem_cons_of_mem s ht)

/-! ## Merging two shards -/

/-- The test for merging says that no hash lies between, also where it saturates. -/
theorem le_nextHash_iff {lower upper : UInt32} :
    lower ≤ nextHash upper ↔ lower.toNat ≤ upper.toNat + 1 := by
  have hlower : lower.toNat < 4294967296 := lower.toNat_lt
  unfold nextHash
  split_ifs with hmax
  · rw [UInt32.le_iff_toNat_le, hmax]
    show lower.toNat ≤ 4294967295 ↔ lower.toNat ≤ 4294967295 + 1
    omega
  · have hupper : upper < maxHash := by
      rw [UInt32.lt_iff_toNat_lt]
      have hne : upper.toNat ≠ maxHash.toNat := fun h => hmax (UInt32.toNat_inj.mp h)
      have hbound : upper.toNat < 4294967296 := upper.toNat_lt
      show upper.toNat < 4294967295
      have hne' : upper.toNat ≠ 4294967295 := hne
      omega
    rw [UInt32.le_iff_toNat_le, toNat_add_one hupper]

/-- The greater of two hashes is the greater number. -/
theorem toNat_max {a b : UInt32} : (max a b).toNat = max a.toNat b.toNat := by
  show (if a ≤ b then b else a).toNat = max a.toNat b.toNat
  by_cases h : a ≤ b
  · rw [if_pos h, Nat.max_eq_right (UInt32.le_iff_toNat_le.mp h)]
  · have hle : b.toNat ≤ a.toNat := by
      rw [UInt32.le_iff_toNat_le] at h
      omega
    rw [if_neg h, Nat.max_eq_left hle]

/-- Two shards between which no hash lies join into one. -/
theorem mem_joined (hsorted : last.lower.toNat ≤ s.lower.toNat)
    (hmeet : s.lower ≤ nextHash last.upper) :
    hash ∈ (⟨last.lower, max last.upper s.upper⟩ : Shard) ↔ hash ∈ last ∨ hash ∈ s := by
  rw [le_nextHash_iff] at hmeet
  rw [mem_iff_toNat, mem_iff_toNat, mem_iff_toNat, toNat_max]
  show last.lower.toNat ≤ hash.toNat ∧ hash.toNat ≤ max last.upper.toNat s.upper.toNat ↔ _
  omega

/-! ## The sweep -/

/-- What the sweep returns starts no earlier than the growing shard. -/
theorem lower_le_of_mem_merge (hsorted : Sorted (last :: rest)) (hp : p ∈ merge last rest) :
    last.lower.toNat ≤ p.lower.toNat := by
  fun_induction merge last rest with
  | case1 last =>
      rw [List.mem_singleton.mp hp]
  | case2 last s rest hmeet ih =>
      exact ih (hsorted.join _) hp
  | case3 last s rest hmeet ih =>
      rcases List.mem_cons.mp hp with rfl | hp
      · exact Nat.le_refl _
      · exact Nat.le_trans hsorted.first_le (ih hsorted.tail hp)

/-- The sweep loses no hash and adds none. -/
theorem covers_merge (hsorted : Sorted (last :: rest)) :
    Covers (merge last rest) hash ↔ Covers (last :: rest) hash := by
  fun_induction merge last rest with
  | case1 last => exact Iff.rfl
  | case2 last s rest hmeet ih =>
      rw [ih (hsorted.join _), covers_cons, mem_joined hsorted.first_le hmeet, covers_cons,
        covers_cons, or_assoc]
  | case3 last s rest hmeet ih =>
      rw [covers_cons, ih hsorted.tail, covers_cons (s := last)]

/-- The sweep leaves no two shards that overlap or touch. -/
theorem canonical_merge (hsorted : Sorted (last :: rest))
    (hvalid : ∀ s ∈ last :: rest, s.Valid) : Canonical (merge last rest) := by
  fun_induction merge last rest with
  | case1 last => exact canonical_singleton (hvalid last (by simp))
  | case2 last s rest hmeet ih =>
      apply ih (hsorted.join _)
      rw [List.forall_mem_cons, List.forall_mem_cons] at hvalid
      refine List.forall_mem_cons.mpr ⟨?_, hvalid.2.2⟩
      have hlast := valid_iff_toNat.mp hvalid.1
      rw [valid_iff_toNat]
      show last.lower.toNat ≤ (max last.upper s.upper).toNat
      rw [toNat_max]
      exact Nat.le_trans hlast (Nat.le_max_left _ _)
  | case3 last s rest hmeet ih =>
      rw [List.forall_mem_cons] at hvalid
      have hrest := ih hsorted.tail hvalid.2
      refine ⟨List.forall_mem_cons.mpr ⟨hvalid.1, hrest.valid⟩,
        List.pairwise_cons.mpr ⟨?_, hrest.ascending⟩⟩
      intro p hp
      have hstart := lower_le_of_mem_merge hsorted.tail hp
      rw [le_nextHash_iff] at hmeet
      unfold Before
      omega

/-! ## Normal forms -/

/-- Normalizing changes nothing about the hashes covered. -/
theorem covers_normalize : Covers (normalize shards) hash ↔ Covers shards hash := by
  have hperm : Covers (shards.mergeSort precedes) hash ↔ Covers shards hash := by
    unfold Covers
    simp only [List.mem_mergeSort]
  have hsorted := sorted_mergeSort shards
  unfold normalize
  cases hsort : shards.mergeSort precedes with
  | nil => rwa [hsort] at hperm
  | cons first rest =>
      rw [hsort] at hperm hsorted
      exact (covers_merge hsorted).trans hperm

/-- The normal form of valid shards is canonical. -/
theorem canonical_normalize (hvalid : ∀ s ∈ shards, s.Valid) : Canonical (normalize shards) := by
  have hsorted := sorted_mergeSort shards
  have hvalid' : ∀ s ∈ shards.mergeSort precedes, s.Valid :=
    fun s hs => hvalid s (List.mem_mergeSort.mp hs)
  unfold normalize
  cases hsort : shards.mergeSort precedes with
  | nil => exact canonical_nil
  | cons first rest =>
      rw [hsort] at hsorted hvalid'
      exact canonical_merge hsorted hvalid'

end Keyspace.Shard
