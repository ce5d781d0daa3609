/-
# Subtraction of shards is set difference

Removing a shard from another leaves exactly the hashes that the other one has and the
removed one has not, whatever the bounds of either, and the removal of a whole list
leaves what lies outside all of it. The pieces inherit the shape of what they were cut
from: a *canonical* list is one of valid shards in ascending order, any two of them with
a hash left out between them, and cutting valid shards out of a canonical list leaves a
canonical list. Canonical lists hold every hash at most once.

The claim on hashes needs no valid shard. The claim on shape does: subtracting a
malformed shard may leave two pieces that overlap.
-/

import Mathlib
import Keyspace.Shard.Cover

namespace Keyspace.Shard

variable {hash : UInt32} {s t p : Shard} {shards removed : List Shard}

/-- Membership compares numbers. -/
theorem mem_iff_toNat :
    hash ∈ s ↔ s.lower.toNat ≤ hash.toNat ∧ hash.toNat ≤ s.upper.toNat := by
  rw [mem_def, UInt32.le_iff_toNat_le, UInt32.le_iff_toNat_le]

/-- Validity compares numbers. -/
theorem valid_iff_toNat : s.Valid ↔ s.lower.toNat ≤ s.upper.toNat :=
  UInt32.le_iff_toNat_le

/-- Overlapping compares numbers. -/
theorem overlaps_iff_toNat :
    s.Overlaps t ↔ s.lower.toNat ≤ t.upper.toNat ∧ t.lower.toNat ≤ s.upper.toNat := by
  unfold Overlaps
  rw [UInt32.le_iff_toNat_le, UInt32.le_iff_toNat_le]

/-- Below a greater hash, taking one away does not wrap. -/
theorem toNat_sub_one {low high : UInt32} (h : low < high) :
    (high - 1).toNat = high.toNat - 1 := by
  have hlt := UInt32.lt_iff_toNat_lt.mp h
  have hone : (1 : UInt32) ≤ high := by
    rw [UInt32.le_iff_toNat_le]
    show 1 ≤ high.toNat
    omega
  exact UInt32.toNat_sub_of_le high 1 hone

/-- Below a greater hash, adding one does not wrap. -/
theorem toNat_add_one {low high : UInt32} (h : low < high) :
    (low + 1).toNat = low.toNat + 1 := by
  have hlt := UInt32.lt_iff_toNat_lt.mp h
  have hbound : high.toNat < 4294967296 := high.toNat_lt
  rw [UInt32.toNat_add]
  show (low.toNat + 1) % 4294967296 = low.toNat + 1
  omega

/-! ## Covers of lists -/

@[simp]
theorem covers_nil : ¬ Covers [] hash := by simp [Covers]

@[simp]
theorem covers_cons : Covers (s :: shards) hash ↔ hash ∈ s ∨ Covers shards hash := by
  simp [Covers]

@[simp]
theorem covers_append {first second : List Shard} :
    Covers (first ++ second) hash ↔ Covers first hash ∨ Covers second hash := by
  simp [Covers, or_and_right, exists_or]

/-- Where every shard is cut down to its hashes outside some set, so is the whole list. -/
theorem covers_flatMap {pieces : Shard → List Shard} {outside : Prop}
    (h : ∀ s, Covers (pieces s) hash ↔ hash ∈ s ∧ outside) :
    Covers (shards.flatMap pieces) hash ↔ Covers shards hash ∧ outside := by
  constructor
  · rintro ⟨p, hp, hhash⟩
    obtain ⟨s, hs, hp⟩ := List.mem_flatMap.mp hp
    obtain ⟨hin, hout⟩ := (h s).mp ⟨p, hp, hhash⟩
    exact ⟨⟨s, hs, hin⟩, hout⟩
  · rintro ⟨⟨s, hs, hin⟩, hout⟩
    obtain ⟨p, hp, hhash⟩ := (h s).mpr ⟨hin, hout⟩
    exact ⟨p, List.mem_flatMap.mpr ⟨s, hs, hp⟩, hhash⟩

/-! ## One shard taken from another -/

/-- The part of `s` below `t` ends where `t` starts. -/
theorem mem_below (h : s.lower < t.lower) :
    hash ∈ (⟨s.lower, t.lower - 1⟩ : Shard) ↔
      s.lower.toNat ≤ hash.toNat ∧ hash.toNat < t.lower.toNat := by
  have hlt := UInt32.lt_iff_toNat_lt.mp h
  rw [mem_iff_toNat, toNat_sub_one h]
  show s.lower.toNat ≤ hash.toNat ∧ hash.toNat ≤ t.lower.toNat - 1 ↔ _
  omega

/-- The part of `s` above `t` starts where `t` ends. -/
theorem mem_above (h : t.upper < s.upper) :
    hash ∈ (⟨t.upper + 1, s.upper⟩ : Shard) ↔
      t.upper.toNat < hash.toNat ∧ hash.toNat ≤ s.upper.toNat := by
  rw [mem_iff_toNat, toNat_add_one h]
  exact Iff.rfl

/-- What the pieces left by a subtraction are: the whole shard, the part below, or the part
above. -/
theorem mem_subtract :
    p ∈ s.subtract t ↔
      (¬ s.Overlaps t ∧ p = s) ∨
      (s.Overlaps t ∧ s.lower < t.lower ∧ p = ⟨s.lower, t.lower - 1⟩) ∨
      (s.Overlaps t ∧ t.upper < s.upper ∧ p = ⟨t.upper + 1, s.upper⟩) := by
  unfold subtract
  by_cases hoverlap : s.Overlaps t
  · by_cases hbelow : s.lower < t.lower <;> by_cases habove : t.upper < s.upper <;>
      simp [hoverlap, hbelow, habove]
  · simp [hoverlap]

/-- Subtraction is set difference, for malformed shards as well. -/
theorem covers_subtract : Covers (s.subtract t) hash ↔ hash ∈ s ∧ hash ∉ t := by
  simp only [Covers, mem_subtract]
  constructor
  · rintro ⟨p, ⟨hapart, rfl⟩ | ⟨hmeet, hlt, rfl⟩ | ⟨hmeet, hlt, rfl⟩, hhash⟩
    · rw [overlaps_iff_toNat] at hapart
      rw [mem_iff_toNat] at hhash ⊢
      rw [mem_iff_toNat]
      omega
    · rw [mem_below hlt] at hhash
      rw [overlaps_iff_toNat] at hmeet
      rw [mem_iff_toNat, mem_iff_toNat]
      omega
    · rw [mem_above hlt] at hhash
      rw [overlaps_iff_toNat] at hmeet
      rw [mem_iff_toNat, mem_iff_toNat]
      omega
  · rintro ⟨hin, hout⟩
    by_cases hmeet : s.Overlaps t
    · rw [mem_iff_toNat] at hin hout
      -- Outside `t` is below it or above it, and the piece on that side has the hash.
      by_cases hbelow : hash.toNat < t.lower.toNat
      · have hlt : s.lower < t.lower := UInt32.lt_iff_toNat_lt.mpr (by omega)
        exact ⟨_, .inr (.inl ⟨hmeet, hlt, rfl⟩), (mem_below hlt).mpr ⟨hin.1, hbelow⟩⟩
      · have habove : t.upper.toNat < hash.toNat := by omega
        have hlt : t.upper < s.upper := UInt32.lt_iff_toNat_lt.mpr (by omega)
        exact ⟨_, .inr (.inr ⟨hmeet, hlt, rfl⟩), (mem_above hlt).mpr ⟨habove, hin.2⟩⟩
    · exact ⟨s, .inl ⟨hmeet, rfl⟩, hin⟩

/-- The pieces lie within the bounds of the shard that they are left from. -/
theorem within_of_mem_subtract (h : p ∈ s.subtract t) :
    s.lower.toNat ≤ p.lower.toNat ∧ p.upper.toNat ≤ s.upper.toNat := by
  rcases mem_subtract.mp h with ⟨-, rfl⟩ | ⟨hmeet, hlt, rfl⟩ | ⟨hmeet, hlt, rfl⟩
  · exact ⟨le_refl _, le_refl _⟩
  · rw [overlaps_iff_toNat] at hmeet
    rw [toNat_sub_one hlt]
    show s.lower.toNat ≤ s.lower.toNat ∧ t.lower.toNat - 1 ≤ s.upper.toNat
    omega
  · rw [overlaps_iff_toNat] at hmeet
    rw [toNat_add_one hlt]
    show s.lower.toNat ≤ t.upper.toNat + 1 ∧ s.upper.toNat ≤ s.upper.toNat
    omega

/-! ## Canonical lists -/

/-- The first shard ends at least two hashes below the start of the second, so that a hash
between them belongs to neither. -/
def Before (s t : Shard) : Prop := s.upper.toNat + 1 < t.lower.toNat

/-- Valid shards in ascending order, of which no two overlap or touch. -/
structure Canonical (shards : List Shard) : Prop where
  valid : ∀ s ∈ shards, s.Valid
  ascending : shards.Pairwise Before

theorem canonical_nil : Canonical [] := ⟨by simp, .nil⟩

theorem canonical_singleton (hs : s.Valid) : Canonical [s] :=
  ⟨by simpa using hs, List.pairwise_singleton _ _⟩

/-- A canonical list holds a hash that it covers in exactly one place. -/
theorem Canonical.filter_eq_singleton (h : Canonical shards) (hcovers : Covers shards hash) :
    ∃ s, shards.filter (fun s => decide (hash ∈ s)) = [s] := by
  obtain ⟨s, hs, hhash⟩ := hcovers
  have hapart := List.pairwise_filter.mpr <| h.ascending.imp
    (S := fun s t => decide (hash ∈ s) = true → decide (hash ∈ t) = true → False) <| by
      intro s t hbefore hleft hright
      rw [decide_eq_true_iff, mem_iff_toNat] at hleft hright
      unfold Before at hbefore
      omega
  have hmem : s ∈ shards.filter (fun s => decide (hash ∈ s)) :=
    List.mem_filter.mpr ⟨hs, decide_eq_true hhash⟩
  match hfilter : shards.filter (fun s => decide (hash ∈ s)) with
  | [] => simp [hfilter] at hmem
  | [s] => exact ⟨s, rfl⟩
  | s :: t :: rest =>
      rw [hfilter, List.pairwise_cons] at hapart
      exact (hapart.1 t (by simp)).elim

/-- Cutting the shards of a canonical list into canonical pieces, each within its shard, leaves
a canonical list. -/
theorem Canonical.flatMap {pieces : Shard → List Shard} (h : Canonical shards)
    (hpieces : ∀ s ∈ shards, Canonical (pieces s))
    (hwithin : ∀ s ∈ shards, ∀ p ∈ pieces s,
      s.lower.toNat ≤ p.lower.toNat ∧ p.upper.toNat ≤ s.upper.toNat) :
    Canonical (shards.flatMap pieces) where
  valid := by
    intro p hp
    obtain ⟨s, hs, hp⟩ := List.mem_flatMap.mp hp
    exact (hpieces s hs).valid p hp
  ascending := by
    rw [List.pairwise_flatMap]
    refine ⟨fun s hs => (hpieces s hs).ascending, ?_⟩
    apply h.ascending.imp_of_mem
    intro s t hs ht hbefore p hp q hq
    have hupper := (hwithin s hs p hp).2
    have hlower := (hwithin t ht q hq).1
    unfold Before at hbefore ⊢
    omega

/-- What a valid shard leaves of a valid shard is canonical. -/
theorem canonical_subtract (hs : s.Valid) (ht : t.Valid) : Canonical (s.subtract t) where
  valid := by
    intro p hp
    rw [valid_iff_toNat] at hs ⊢
    rcases mem_subtract.mp hp with ⟨-, rfl⟩ | ⟨-, hlt, rfl⟩ | ⟨-, hlt, rfl⟩
    · exact hs
    · have hnumbers := UInt32.lt_iff_toNat_lt.mp hlt
      rw [toNat_sub_one hlt]
      show s.lower.toNat ≤ t.lower.toNat - 1
      omega
    · have hnumbers := UInt32.lt_iff_toNat_lt.mp hlt
      rw [toNat_add_one hlt]
      exact hnumbers
  ascending := by
    rw [valid_iff_toNat] at ht
    unfold subtract
    split_ifs with hmeet hbelow habove <;>
      simp only [List.nil_append, List.append_nil, List.cons_append, List.pairwise_singleton,
        List.Pairwise.nil, List.pairwise_pair]
    have hnumbers := UInt32.lt_iff_toNat_lt.mp hbelow
    show (t.lower - 1).toNat + 1 < (t.upper + 1).toNat
    rw [toNat_sub_one hbelow, toNat_add_one habove]
    omega

/-! ## A list of shards taken from others -/

/-- The pieces with every one of `removed` taken from them. -/
def subtractAll (pieces removed : List Shard) : List Shard :=
  removed.foldl (fun pieces r => pieces.flatMap (·.subtract r)) pieces

theorem carve_eq_subtractAll : s.carve removed = subtractAll [s] removed := rfl

/-- Taking shards away leaves what lies outside all of them. -/
theorem covers_subtractAll {pieces : List Shard} :
    Covers (subtractAll pieces removed) hash ↔ Covers pieces hash ∧ ¬ Covers removed hash := by
  induction removed generalizing pieces with
  | nil => simp [subtractAll]
  | cons r removed ih =>
      have hone : Covers (pieces.flatMap (·.subtract r)) hash ↔
          Covers pieces hash ∧ hash ∉ r := covers_flatMap fun _ => covers_subtract
      rw [subtractAll, List.foldl_cons]
      apply ih.trans
      rw [hone, covers_cons, not_or, and_assoc]

/-- Taking valid shards away keeps a list canonical. -/
theorem canonical_subtractAll {pieces : List Shard} (h : Canonical pieces)
    (hremoved : ∀ r ∈ removed, r.Valid) : Canonical (subtractAll pieces removed) := by
  induction removed generalizing pieces with
  | nil => exact h
  | cons r removed ih =>
      rw [List.forall_mem_cons] at hremoved
      have hone : Canonical (pieces.flatMap (·.subtract r)) :=
        h.flatMap (fun s hs => canonical_subtract (h.valid s hs) hremoved.1)
          (fun s _ p hp => within_of_mem_subtract hp)
      exact ih hone hremoved.2

/-- Every piece lies within one of those before. -/
theorem within_of_mem_subtractAll {pieces : List Shard} (h : p ∈ subtractAll pieces removed) :
    ∃ s ∈ pieces, s.lower.toNat ≤ p.lower.toNat ∧ p.upper.toNat ≤ s.upper.toNat := by
  induction removed generalizing pieces with
  | nil => exact ⟨p, h, le_refl _, le_refl _⟩
  | cons r removed ih =>
      obtain ⟨q, hq, hlower, hupper⟩ := ih h
      obtain ⟨s, hs, hq⟩ := List.mem_flatMap.mp hq
      have hwithin := within_of_mem_subtract hq
      exact ⟨s, hs, by omega, by omega⟩

/-- Carving leaves what lies outside all the removed shards. -/
theorem covers_carve : Covers (s.carve removed) hash ↔ hash ∈ s ∧ ¬ Covers removed hash := by
  rw [carve_eq_subtractAll, covers_subtractAll, covers_cons, or_iff_left covers_nil]

/-- A canonical list stays canonical when valid shards are carved out of it. -/
theorem Canonical.flatMap_carve (h : Canonical shards) (hremoved : ∀ r ∈ removed, r.Valid) :
    Canonical (shards.flatMap (·.carve removed)) := by
  apply h.flatMap
  · intro s hs
    exact canonical_subtractAll (canonical_singleton (h.valid s hs)) hremoved
  · intro s _ p hp
    obtain ⟨q, hq, hwithin⟩ := within_of_mem_subtractAll hp
    rw [List.mem_singleton] at hq
    exact hq ▸ hwithin

/-- Carving a list leaves what it covers outside all the removed shards. -/
theorem covers_flatMap_carve :
    Covers (shards.flatMap (·.carve removed)) hash ↔
      Covers shards hash ∧ ¬ Covers removed hash :=
  covers_flatMap fun _ => covers_carve

end Keyspace.Shard
