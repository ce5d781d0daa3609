/-
# What is left of a shard

Taking one shard from another leaves its hashes outside the other one, whatever the
bounds of either, and the bounds of the pieces are those that integers without a limit
give: nothing wraps at either end of the hash space. Of two valid shards at most two
pieces are left, in order and with a hash between them.

Taking a list of valid shards from a valid one leaves a canonical list. Canonical lists
are determined by the hashes that they cover, so it does not matter in which order the
shards are taken away.
-/

import Mathlib
import Keyspace.Proofs.Shard.Canonical

namespace Keyspace.Shard

variable {hash : UInt32} {s t : Shard} {removed removed' : List Shard}

/-! ## Bounds without a limit -/

/-- The bounds as integers. -/
def bounds (s : Shard) : ℤ × ℤ := (s.lower.toNat, s.upper.toNat)

/-- The bounds of what is left of one range of integers without another. Integers have no limit, so
no bound wraps here. -/
def boundsWithout (s t : ℤ × ℤ) : List (ℤ × ℤ) :=
  if s.1 ≤ t.2 ∧ t.1 ≤ s.2 then
    (if s.1 < t.1 then [(s.1, t.1 - 1)] else []) ++ (if t.2 < s.2 then [(t.2 + 1, s.2)] else [])
  else
    [s]

theorem bounds_below (h : s.lower < t.lower) :
    bounds ⟨s.lower, t.lower - 1⟩ = (s.bounds.1, t.bounds.1 - 1) := by
  have hlt := UInt32.lt_iff_toNat_lt.mp h
  have hupper : ((t.lower - 1).toNat : ℤ) = t.lower.toNat - 1 := by
    rw [toNat_sub_one h]
    omega
  exact Prod.ext rfl hupper

theorem bounds_above (h : t.upper < s.upper) :
    bounds ⟨t.upper + 1, s.upper⟩ = (t.bounds.2 + 1, s.bounds.2) := by
  have hlower : ((t.upper + 1).toNat : ℤ) = t.upper.toNat + 1 := by
    rw [toNat_add_one h]
    omega
  exact Prod.ext hlower rfl

/-- No bound wraps when a shard is taken from another. -/
theorem map_bounds_subtract : (s.subtract t).map bounds = boundsWithout s.bounds t.bounds := by
  have hmeet : (s.bounds.1 ≤ t.bounds.2 ∧ t.bounds.1 ≤ s.bounds.2) ↔ s.Overlaps t := by
    rw [overlaps_iff_toNat]
    exact and_congr Int.ofNat_le Int.ofNat_le
  have hbelow : s.bounds.1 < t.bounds.1 ↔ s.lower < t.lower := by
    rw [UInt32.lt_iff_toNat_lt]
    exact Int.ofNat_lt
  have habove : t.bounds.2 < s.bounds.2 ↔ t.upper < s.upper := by
    rw [UInt32.lt_iff_toNat_lt]
    exact Int.ofNat_lt
  simp only [subtract, boundsWithout, hmeet, hbelow, habove]
  split_ifs with hoverlap hlow hhigh hhigh
  · exact congrArg₂ (fun p q => [p, q]) (bounds_below hlow) (bounds_above hhigh)
  · exact congrArg (fun p => [p]) (bounds_below hlow)
  · exact congrArg (fun p => [p]) (bounds_above hhigh)
  · rfl
  · rfl

/-- A malformed shard has no hashes to take away, but it may cut another one into pieces that
overlap. -/
example : (⟨0, 9⟩ : Shard).subtract ⟨7, 3⟩ = [⟨0, 6⟩, ⟨4, 9⟩] := by decide

/-- No bound wraps when a list of shards is taken from pieces, one after another. -/
theorem map_bounds_subtractAll (pieces : List Shard) :
    (subtractAll pieces removed).map bounds =
      removed.foldl (fun pieces r => pieces.flatMap (boundsWithout · r.bounds))
        (pieces.map bounds) := by
  induction removed generalizing pieces with
  | nil => rfl
  | cons r removed ih =>
      have hone : (pieces.flatMap (·.subtract r)).map bounds =
          (pieces.map bounds).flatMap (boundsWithout · r.bounds) := by
        rw [List.map_flatMap, List.flatMap_map]
        exact List.flatMap_congr fun _ _ => map_bounds_subtract
      rw [List.foldl_cons, ← hone]
      exact ih _

/-! ## Valid shards -/

/-- Two valid shards overlap exactly if they share a hash. -/
theorem overlaps_iff_exists_mem (hs : s.Valid) (ht : t.Valid) :
    s.Overlaps t ↔ ∃ hash, hash ∈ s ∧ hash ∈ t := by
  constructor
  · rintro ⟨hleft, hright⟩
    -- The greater of the two lower bounds lies in both.
    rcases UInt32.le_total s.lower t.lower with hle | hle
    · exact ⟨t.lower, ⟨hle, hright⟩, ht.lower_mem⟩
    · exact ⟨s.lower, hs.lower_mem, ⟨hle, hleft⟩⟩
  · rintro ⟨hash, hins, hint⟩
    exact ⟨UInt32.le_trans hins.1 hint.2, UInt32.le_trans hint.1 hins.2⟩

theorem length_subtract_le : (s.subtract t).length ≤ 2 := by
  unfold subtract
  split_ifs <;> simp

/-- Carving valid shards out of a valid one leaves a canonical list. -/
theorem canonical_carve (hs : s.Valid) (hremoved : ∀ r ∈ removed, r.Valid) :
    Canonical (s.carve removed) :=
  canonical_subtractAll (canonical_singleton hs) hremoved

/-- What is carved out of a valid shard matters as a set of hashes only. -/
theorem carve_congr (hs : s.Valid) (hremoved : ∀ r ∈ removed, r.Valid)
    (hremoved' : ∀ r ∈ removed', r.Valid)
    (h : ∀ hash ∈ s, Covers removed hash ↔ Covers removed' hash) :
    s.carve removed = s.carve removed' := by
  refine (canonical_carve hs hremoved).eq_of_covers_iff (canonical_carve hs hremoved') ?_
  intro hash
  rw [covers_carve, covers_carve]
  exact and_congr_right fun hhash => not_congr (h hash hhash)

/-- The order in which valid shards are carved out of a valid one does not matter. -/
theorem carve_eq_of_perm (hs : s.Valid) (hremoved : ∀ r ∈ removed, r.Valid)
    (hperm : removed'.Perm removed) : s.carve removed' = s.carve removed := by
  refine carve_congr hs (fun r hr => hremoved r (hperm.mem_iff.mp hr)) hremoved ?_
  intro hash _
  unfold Covers
  simp only [hperm.mem_iff]

/-! ## The main result -/

/-- Taking shards away is set difference, computed without wrapping. For one shard taken from
another, and for a list taken from one, this holds of any bounds. Of two valid shards at most two
pieces are left, which form a canonical list, and the two overlap exactly if they share a hash.
Carving any list of valid shards out of a valid one leaves a canonical list of the hashes outside
all of them, and the same list for every order of the removed shards. -/
theorem differences_are_exact :
    (∀ s t : Shard, (∀ hash, Covers (s.subtract t) hash ↔ hash ∈ s ∧ hash ∉ t) ∧
      (s.subtract t).map bounds = boundsWithout s.bounds t.bounds) ∧
    (∀ (s : Shard) (removed : List Shard), (s.carve removed).map bounds =
      removed.foldl (fun pieces r => pieces.flatMap (boundsWithout · r.bounds)) [s.bounds]) ∧
    (∀ s t : Shard, s.Valid → t.Valid →
      (s.subtract t).length ≤ 2 ∧ Canonical (s.subtract t) ∧
        (s.Overlaps t ↔ ∃ hash, hash ∈ s ∧ hash ∈ t)) ∧
    ∀ (s : Shard) (removed : List Shard), s.Valid → (∀ r ∈ removed, r.Valid) →
      Canonical (s.carve removed) ∧
        (∀ hash, Covers (s.carve removed) hash ↔ hash ∈ s ∧ ∀ r ∈ removed, hash ∉ r) ∧
        ∀ removed' : List Shard, removed'.Perm removed → s.carve removed' = s.carve removed := by
  refine ⟨fun s t => ⟨fun hash => covers_subtract, map_bounds_subtract⟩,
    fun s removed => map_bounds_subtractAll [s], ?_, ?_⟩
  · intro s t hs ht
    exact ⟨length_subtract_le, canonical_subtract hs ht, overlaps_iff_exists_mem hs ht⟩
  · intro s removed hs hremoved
    refine ⟨canonical_carve hs hremoved, fun hash => ?_,
      fun removed' hperm => carve_eq_of_perm hs hremoved hperm⟩
    rw [covers_carve]
    simp [Covers]

/-- Both ends of the hash space are taken away, each in two shards that overlap. -/
theorem differences_are_exact_full :
    let removed : List Shard := [⟨0, 4⟩, ⟨10, 20⟩, ⟨3, 6⟩, ⟨15, maxHash⟩]
    full.Valid ∧ (⟨10, 20⟩ : Shard).Valid ∧ (∀ r ∈ removed, r.Valid) ∧
      full.Overlaps ⟨10, 20⟩ ∧ Canonical (full.subtract ⟨10, 20⟩) ∧
      full.carve removed = [⟨7, 9⟩] ∧ full.carve removed.reverse = full.carve removed := by
  intro removed
  obtain ⟨-, -, hone, hmany⟩ := differences_are_exact
  have hfull : full.Valid := by decide
  have hmiddle : (⟨10, 20⟩ : Shard).Valid := by decide
  have hremoved : ∀ r ∈ removed, r.Valid := by decide
  obtain ⟨-, hcanonical, hoverlap⟩ := hone full ⟨10, 20⟩ hfull hmiddle
  refine ⟨hfull, hmiddle, hremoved, hoverlap.mpr ⟨12, by decide, by decide⟩, hcanonical,
    by decide, ?_⟩
  exact (hmany full removed hfull hremoved).2.2 _ removed.reverse_perm

end Keyspace.Shard
