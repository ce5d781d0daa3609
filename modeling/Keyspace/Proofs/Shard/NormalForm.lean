/-
# Normal forms

A list of valid shards has one normal form: the canonical list that covers the same
hashes, of which there is no second one. So lists have the same normal form exactly if
they cover the same hashes, and a normal form is its own. Its shards are as long as the
cover allows, and no longer: two hashes lie in the same shard exactly if everything
between them is covered.

The sweep decides this with a test on two bounds. The test saturates at the greatest
hash and is right there as well, because no hash lies above.
-/

import Mathlib
import Keyspace.Proofs.Shard.Canonical
import Keyspace.Proofs.Shard.Normalization

namespace Keyspace.Shard

variable {low high : UInt32} {s t : Shard} {shards others : List Shard}

/-! ## Gaps -/

/-- The test for merging says that no hash lies between the two bounds. -/
theorem le_nextHash_iff_no_gap {lower upper : UInt32} :
    lower ≤ nextHash upper ↔ ¬ ∃ hash, upper < hash ∧ hash < lower := by
  rw [le_nextHash_iff]
  constructor
  · rintro hle ⟨hash, habove, hbelow⟩
    rw [UInt32.lt_iff_toNat_lt] at habove hbelow
    omega
  · intro hgap
    by_contra hapart
    have hlt : upper < lower := UInt32.lt_iff_toNat_lt.mpr (by omega)
    have hnext := toNat_add_one hlt
    refine hgap ⟨upper + 1, ?_, ?_⟩ <;> rw [UInt32.lt_iff_toNat_lt, hnext] <;> omega

/-- Of two different shards of a canonical list one ends below the other. -/
theorem Canonical.eq_or_before (h : Canonical shards) (hs : s ∈ shards) (ht : t ∈ shards) :
    s = t ∨ Before s t ∨ Before t s := by
  have hsymm : Std.Symm fun s t => Before s t ∨ Before t s := ⟨fun _ _ => Or.symm⟩
  have hapart := (h.ascending.imp (S := fun s t => Before s t ∨ Before t s) Or.inl).forall hs ht
  exact or_iff_not_imp_left.mpr hapart

/-- Two hashes lie in the same shard of a canonical list exactly if no hash between them is left
out. -/
theorem Canonical.exists_mem_iff_covers (h : Canonical shards) (hle : low ≤ high) :
    (∃ s ∈ shards, low ∈ s ∧ high ∈ s) ↔
      ∀ hash, low ≤ hash → hash ≤ high → Covers shards hash := by
  constructor
  · rintro ⟨s, hs, hlow, hhigh⟩ hash hfrom hupto
    exact ⟨s, hs, UInt32.le_trans hlow.1 hfrom, UInt32.le_trans hupto hhigh.2⟩
  · intro hcovers
    obtain ⟨s, hs, hlow⟩ := hcovers low (UInt32.le_refl _) hle
    refine ⟨s, hs, hlow, ?_⟩
    by_contra hout
    -- The hash behind the shard is covered by a shard that does not keep its distance.
    rw [mem_iff_toNat] at hlow hout
    rw [UInt32.le_iff_toNat_le] at hle
    have hlt : s.upper < high := UInt32.lt_iff_toNat_lt.mpr (by omega)
    have hnext := toNat_add_one hlt
    obtain ⟨t, ht, hin⟩ := hcovers (s.upper + 1)
      (UInt32.le_iff_toNat_le.mpr (by omega)) (UInt32.le_iff_toNat_le.mpr (by omega))
    rw [mem_iff_toNat, hnext] at hin
    rcases h.eq_or_before hs ht with rfl | hbefore | hbefore
    · omega
    · unfold Before at hbefore
      omega
    · unfold Before at hbefore
      omega

/-! ## The normal form of a cover -/

/-- The normal form of valid shards is the only canonical list that covers their hashes. -/
theorem Canonical.eq_normalize (h : Canonical others) (hvalid : ∀ s ∈ shards, s.Valid)
    (hcovers : ∀ hash, Covers others hash ↔ Covers shards hash) : others = normalize shards :=
  h.eq_of_covers_iff (canonical_normalize hvalid) fun hash =>
    (hcovers hash).trans covers_normalize.symm

/-- Lists of valid shards with the same cover have the same normal form. -/
theorem normalize_congr (hvalid : ∀ s ∈ shards, s.Valid) (hvalid' : ∀ s ∈ others, s.Valid)
    (hcovers : ∀ hash, Covers others hash ↔ Covers shards hash) :
    normalize others = normalize shards :=
  (canonical_normalize hvalid').eq_normalize hvalid fun hash =>
    covers_normalize.trans (hcovers hash)

/-- Canonical lists are normal forms. -/
theorem Canonical.normalize_eq (h : Canonical shards) : normalize shards = shards :=
  (h.eq_normalize h.valid fun _ => Iff.rfl).symm

/-- Normalizing valid shards gives the canonical list that covers the same hashes, and there is no
other one; so it depends on the cover alone, and doing it again changes nothing. Two hashes come
into the same shard exactly if the shards leave no hash between them out, and the test on which the
sweep merges says that no hash lies between two bounds. -/
theorem normalize_gives_canonical_cover (shards : List Shard) (hvalid : ∀ s ∈ shards, s.Valid) :
    Canonical (normalize shards) ∧
    (∀ hash, Covers (normalize shards) hash ↔ Covers shards hash) ∧
    (∀ others : List Shard, Canonical others →
      (∀ hash, Covers others hash ↔ Covers shards hash) → others = normalize shards) ∧
    (∀ others : List Shard, (∀ s ∈ others, s.Valid) →
      (∀ hash, Covers others hash ↔ Covers shards hash) → normalize others = normalize shards) ∧
    normalize (normalize shards) = normalize shards ∧
    (∀ low high : UInt32, low ≤ high → ((∃ s ∈ normalize shards, low ∈ s ∧ high ∈ s) ↔
      ∀ hash, low ≤ hash → hash ≤ high → Covers shards hash)) ∧
    ∀ lower upper : UInt32,
      lower ≤ nextHash upper ↔ ¬ ∃ hash, upper < hash ∧ hash < lower := by
  have hcanonical := canonical_normalize hvalid
  refine ⟨hcanonical, fun _ => covers_normalize, fun others h => h.eq_normalize hvalid,
    fun others hvalid' => normalize_congr hvalid hvalid', hcanonical.normalize_eq, ?_,
    fun _ _ => le_nextHash_iff_no_gap⟩
  intro low high hle
  rw [hcanonical.exists_mem_iff_covers hle]
  simp only [covers_normalize]

/-- Nested, overlapping, adjacent and repeated shards, one of which ends with the greatest hash. The
gap of one hash stays. -/
theorem normalize_gives_canonical_cover_touching :
    let shards : List Shard :=
      [⟨40, maxHash⟩, ⟨10, 19⟩, ⟨0, 9⟩, ⟨2, 3⟩, ⟨21, 30⟩, ⟨25, 39⟩, ⟨maxHash, maxHash⟩, ⟨2, 3⟩]
    let others : List Shard := [⟨0, 19⟩, ⟨21, maxHash⟩]
    (∀ s ∈ shards, s.Valid) ∧ normalize shards = others ∧ Canonical others ∧
      normalize others = others := by
  intro shards others
  have hvalid : ∀ s ∈ shards, s.Valid := by decide
  have heq : normalize shards = others := by cbv
  obtain ⟨hcanonical, -, -, -, hsame, -, -⟩ := normalize_gives_canonical_cover shards hvalid
  rw [heq] at hcanonical hsame
  exact ⟨hvalid, heq, hcanonical, hsame⟩

end Keyspace.Shard
