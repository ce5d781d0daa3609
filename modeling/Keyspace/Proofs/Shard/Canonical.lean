/-
# Canonical lists are determined by their covers

A canonical list starts with the least hash that it covers. Its first shard goes on up to
the first hash above that is not covered, and the rest of the list covers what lies
further up. So the hashes alone decide every shard of the list: no two canonical lists
cover the same hashes.
-/

import Mathlib
import Keyspace.Proofs.Shard.Subtraction

namespace Keyspace.Shard

variable {hash : UInt32} {s t : Shard} {first second rest : List Shard}

theorem Valid.lower_mem (h : s.Valid) : s.lower ∈ s := ⟨UInt32.le_refl _, h⟩

theorem Canonical.tail (h : Canonical (s :: rest)) : Canonical rest where
  valid := (List.forall_mem_cons.mp h.valid).2
  ascending := (List.pairwise_cons.mp h.ascending).2

/-- Between the first shard and what the rest covers a hash is left out. -/
theorem Canonical.lt_of_covers_tail (h : Canonical (s :: rest)) (hcovers : Covers rest hash) :
    s.upper.toNat + 1 < hash.toNat := by
  obtain ⟨t, ht, hhash⟩ := hcovers
  have hbefore : Before s t := (List.pairwise_cons.mp h.ascending).1 t ht
  exact Nat.lt_of_lt_of_le hbefore (mem_iff_toNat.mp hhash).1

/-- The rest covers what lies above the first shard. -/
theorem Canonical.covers_tail_iff (h : Canonical (s :: rest)) :
    Covers rest hash ↔ Covers (s :: rest) hash ∧ s.upper.toNat < hash.toNat := by
  rw [covers_cons, mem_iff_toNat]
  constructor
  · intro hrest
    have hlt := h.lt_of_covers_tail hrest
    exact ⟨.inr hrest, by omega⟩
  · rintro ⟨⟨-, hle⟩ | hrest, hlt⟩
    · omega
    · exact hrest

/-- The first shard starts with the least hash that is covered. -/
theorem Canonical.lower_le_of_covers (h : Canonical (s :: rest))
    (hcovers : Covers (s :: rest) hash) : s.lower.toNat ≤ hash.toNat := by
  rcases covers_cons.mp hcovers with hhash | hrest
  · exact (mem_iff_toNat.mp hhash).1
  · have hvalid := valid_iff_toNat.mp (h.valid s List.mem_cons_self)
    have hlt := h.lt_of_covers_tail hrest
    omega

/-- Of two lists that start with the same hash, the one that covers more starts with the longer
shard: the hash behind a first shard is not covered. -/
theorem Canonical.upper_le_of_covers (h : Canonical (s :: first)) (hlower : s.lower = t.lower)
    (hcovers : ∀ hash, Covers (t :: second) hash → Covers (s :: first) hash) :
    t.upper.toNat ≤ s.upper.toNat := by
  by_contra hlonger
  have hlt : s.upper < t.upper := UInt32.lt_iff_toNat_lt.mpr (Nat.lt_of_not_le hlonger)
  have hnext := toNat_add_one hlt
  have hvalid := valid_iff_toNat.mp (h.valid s List.mem_cons_self)
  have hmem : s.upper + 1 ∈ t := by
    rw [mem_iff_toNat, hnext, ← hlower]
    omega
  rcases covers_cons.mp (hcovers _ (covers_cons.mpr (.inl hmem))) with hin | hrest
  · have hle := (mem_iff_toNat.mp hin).2
    omega
  · have habove := h.lt_of_covers_tail hrest
    omega

/-- Canonical lists that cover the same hashes are equal. -/
theorem Canonical.eq_of_covers_iff (h : Canonical first) (h' : Canonical second)
    (hcovers : ∀ hash, Covers first hash ↔ Covers second hash) : first = second := by
  induction first generalizing second with
  | nil =>
      cases second with
      | nil => rfl
      | cons t second =>
          have hlower := (h'.valid t List.mem_cons_self).lower_mem
          exact absurd ((hcovers _).mpr (covers_cons.mpr (.inl hlower))) covers_nil
  | cons s first ih =>
      cases second with
      | nil =>
          have hlower := (h.valid s List.mem_cons_self).lower_mem
          exact absurd ((hcovers _).mp (covers_cons.mpr (.inl hlower))) covers_nil
      | cons t second =>
          have hs := h.valid s List.mem_cons_self
          have ht := h'.valid t List.mem_cons_self
          have hlower : s.lower = t.lower := by
            have hle := h.lower_le_of_covers
              ((hcovers t.lower).mpr (covers_cons.mpr (.inl ht.lower_mem)))
            have hge := h'.lower_le_of_covers
              ((hcovers s.lower).mp (covers_cons.mpr (.inl hs.lower_mem)))
            exact UInt32.toNat_inj.mp (Nat.le_antisymm hle hge)
          have hupper : s.upper = t.upper := by
            have hge := h.upper_le_of_covers hlower fun hash => (hcovers hash).mpr
            have hle := h'.upper_le_of_covers hlower.symm fun hash => (hcovers hash).mp
            exact UInt32.toNat_inj.mp (Nat.le_antisymm hle hge)
          have hrest : first = second := by
            refine ih h.tail h'.tail fun hash => ?_
            rw [h.covers_tail_iff, h'.covers_tail_iff, hcovers, hupper]
          obtain ⟨lower, upper⟩ := s
          obtain ⟨lower', upper'⟩ := t
          obtain rfl : lower = lower' := hlower
          obtain rfl : upper = upper' := hupper
          rw [hrest]

end Keyspace.Shard
