/-
# The uniform assignment is a partition

The hash space is split at the multiples of its size divided by the number of servers,
each rounded down. Part `i` of `n` therefore holds the hashes `h` for which `(h + 1) * n`
lies above `i` times the size and at most at `i + 1` times the size, and exactly one `i`
fits. With fewer servers than hashes no product leaves 64 bits and no part is empty.
-/

import Mathlib
import Keyspace.Controller
import Keyspace.Proofs.Assignment.Ownership
import Keyspace.Proofs.TreeMap

namespace Keyspace

variable {count index : Nat} {hash : UInt32} {server : String} {shards : List Shard}
  {servers : List String}

/-- Dropping repetitions leaves none. -/
theorem nodup_eraseDups (names : List String) : names.eraseDups.Nodup := by
  match names with
  | [] => exact .nil
  | name :: rest =>
      rw [List.eraseDups_cons, List.nodup_cons]
      refine ⟨?_, nodup_eraseDups _⟩
      intro hmem
      have hfilter := List.mem_eraseDups.mp hmem
      simp at hfilter
termination_by names.length
decreasing_by exact Nat.lt_succ_of_le (List.length_filter_le _ _)

namespace Shard

/-- Where part `index` of `count` starts: its share of the hash space, rounded down. -/
def cut (count index : Nat) : Nat := 4294967296 * index / count

/-- A multiple of the size of the hash space that a cut is computed from fits into 64 bits. -/
theorem toNat_hashCount_mul {i : UInt64} (hi : i.toNat < 4294967296) :
    (hashCount * i).toNat = 4294967296 * i.toNat := by
  have hspace : hashCount.toNat = 4294967296 := rfl
  rw [UInt64.toNat_mul, hspace, Nat.mod_eq_of_lt]
  show 4294967296 * i.toNat < 18446744073709551616
  omega

theorem toNat_hashCount_mul_div {n i : UInt64} (hn : n.toNat < 4294967296)
    (hi : i.toNat ≤ n.toNat) : (hashCount * i / n).toNat = cut n.toNat i.toNat := by
  rw [UInt64.toNat_div, toNat_hashCount_mul (by omega), cut]

/-- A cut before the last one is a hash. -/
theorem cut_lt (hindex : index < count) : cut count index < 4294967296 := by
  rw [cut, Nat.div_lt_iff_lt_mul (by omega)]
  omega

/-- A cut after the first one has hashes below it. -/
theorem cut_pos (hcount : count < 4294967296) (hindex : 0 < index) (hle : index ≤ count) :
    0 < cut count index := by
  rw [cut, Nat.lt_div_iff_mul_lt (by omega)]
  omega

/-- The last cut is the end of the hash space. -/
theorem cut_le (hindex : index ≤ count) : cut count index ≤ 4294967296 := by
  apply Nat.div_le_of_le_mul
  rw [Nat.mul_comm]
  exact Nat.mul_le_mul_right _ hindex

theorem toNat_toUInt64 (h : index < 4294967296) : index.toUInt64.toNat = index :=
  UInt64.toNat_ofNat_of_lt' (by show index < 18446744073709551616; omega)

/-- A part starts at its cut. -/
theorem toNat_lower_part (hcount : count < 4294967296) (hindex : index < count) :
    (part count.toUInt64 index.toUInt64).lower.toNat = cut count index := by
  have hn := toNat_toUInt64 hcount
  have hi := toNat_toUInt64 (Nat.lt_trans hindex hcount)
  show (hashCount * index.toUInt64 / count.toUInt64).toUInt32.toNat = cut count index
  rw [UInt64.toNat_toUInt32, toNat_hashCount_mul_div (by omega) (by omega), hn, hi]
  exact Nat.mod_eq_of_lt (cut_lt hindex)

theorem toNat_succ_index (hcount : count < 4294967296) (hindex : index < count) :
    (index.toUInt64 + 1).toNat = index + 1 := by
  rw [UInt64.toNat_add, toNat_toUInt64 (Nat.lt_trans hindex hcount)]
  show (index + 1) % 18446744073709551616 = index + 1
  omega

/-- There is a hash to end with below every cut but the first. -/
theorem toNat_end_part (hcount : count < 4294967296) (hindex : index < count) :
    (hashCount * (index.toUInt64 + 1) / count.toUInt64 - 1).toNat + 1 = cut count (index + 1) := by
  have hn := toNat_toUInt64 hcount
  have hi := toNat_succ_index hcount hindex
  have hpos : 0 < cut count (index + 1) := cut_pos hcount (Nat.succ_pos index) hindex
  have hcut := toNat_hashCount_mul_div (n := count.toUInt64) (i := index.toUInt64 + 1)
    (by omega) (by omega)
  rw [hn, hi] at hcut
  rw [UInt64.toNat_sub_of_le, hcut]
  · exact Nat.sub_add_cancel hpos
  · rw [UInt64.le_iff_toNat_le, hcut]
    exact hpos

/-- A part ends just below the next cut. -/
theorem toNat_upper_part (hcount : count < 4294967296) (hindex : index < count) :
    (part count.toUInt64 index.toUInt64).upper.toNat + 1 = cut count (index + 1) := by
  have hend := toNat_end_part hcount hindex
  have hle : cut count (index + 1) ≤ 4294967296 := cut_le hindex
  show (hashCount * (index.toUInt64 + 1) / count.toUInt64 - 1).toUInt32.toNat + 1 = _
  rw [UInt64.toNat_toUInt32]
  omega

/-- A part holds the hashes from its cut up to the next one. -/
theorem mem_part_iff (hcount : count < 4294967296) (hindex : index < count) :
    hash ∈ part count.toUInt64 index.toUInt64 ↔
      4294967296 * index < (hash.toNat + 1) * count ∧
        (hash.toNat + 1) * count ≤ 4294967296 * (index + 1) := by
  have hlower := toNat_lower_part hcount hindex
  have hupper := toNat_upper_part hcount hindex
  have hstart : cut count index < hash.toNat + 1 ↔
      4294967296 * index < (hash.toNat + 1) * count := Nat.div_lt_iff_lt_mul (by omega)
  have hend : hash.toNat + 1 ≤ cut count (index + 1) ↔
      (hash.toNat + 1) * count ≤ 4294967296 * (index + 1) := Nat.le_div_iff_mul_le (by omega)
  rw [mem_iff_toNat, ← hstart, ← hend]
  omega

/-- No part is empty. -/
theorem valid_part (hcount : count < 4294967296) (hindex : index < count) :
    (part count.toUInt64 index.toUInt64).Valid := by
  have hlower := toNat_lower_part hcount hindex
  have hupper := toNat_upper_part hcount hindex
  have hgrow : cut count index + 1 ≤ cut count (index + 1) := by
    rw [cut, cut, Nat.le_div_iff_mul_le (by omega)]
    have hfloor := Nat.div_mul_le_self (4294967296 * index) count
    rw [Nat.add_mul]
    omega
  rw [valid_iff_toNat]
  omega

/-- The part that holds a hash is found by dividing. -/
theorem mem_part_iff_index_eq (hcount : count < 4294967296) (hindex : index < count) :
    hash ∈ part count.toUInt64 index.toUInt64 ↔
      ((hash.toNat + 1) * count - 1) / 4294967296 = index := by
  have hproduct_pos : 0 < (hash.toNat + 1) * count :=
    Nat.mul_pos (Nat.succ_pos _) (Nat.zero_lt_of_lt hindex)
  rw [mem_part_iff hcount hindex]
  omega

/-- There is such a part. -/
theorem part_index_lt (hpos : 0 < count) (hash : UInt32) :
    ((hash.toNat + 1) * count - 1) / 4294967296 < count := by
  have hhash : hash.toNat < 4294967296 := hash.toNat_lt
  have hproduct : (hash.toNat + 1) * count ≤ 4294967296 * count :=
    Nat.mul_le_mul_right _ hhash
  rw [Nat.div_lt_iff_lt_mul (by omega)]
  omega

/-- Every hash lies in exactly one part. -/
theorem existsUnique_mem_part (hpos : 0 < count) (hcount : count < 4294967296) (hash : UInt32) :
    ∃! index, index < count ∧ hash ∈ part count.toUInt64 index.toUInt64 := by
  have hindex := part_index_lt hpos hash
  refine ⟨_, ⟨hindex, (mem_part_iff_index_eq hcount hindex).mpr rfl⟩, ?_⟩
  rintro index ⟨hindex, hmem⟩
  exact ((mem_part_iff_index_eq hcount hindex).mp hmem).symm

end Shard

namespace Assignment

/-- Every server has its part in the uniform assignment, and nothing else. -/
theorem shardsOf?_uniform (hnodup : servers.Nodup) :
    (uniform servers).shardsOf? server = some shards ↔
      ∃ index : Nat, servers[index]? = some server ∧
        shards = [Shard.part servers.length.toUInt64 index.toUInt64] := by
  have hnames : ((servers.zipIdx.map fun entry =>
      (entry.1, [Shard.part servers.length.toUInt64 entry.2.toUInt64])).map Prod.fst).Nodup := by
    rw [List.map_map]
    exact (List.zipIdx_map_fst 0 servers).symm ▸ hnodup
  refine (getElem?_ofList_eq_some_iff hnames).trans ?_
  rw [List.mem_map]
  constructor
  · rintro ⟨⟨name, index⟩, hmem, heq⟩
    obtain ⟨rfl, rfl⟩ := Prod.mk.inj heq
    exact ⟨index, List.mem_zipIdx_iff_getElem?.mp hmem, rfl⟩
  · rintro ⟨index, hname, rfl⟩
    exact ⟨(server, index), List.mem_zipIdx_iff_getElem?.mpr hname, rfl⟩

/-- The servers of the uniform assignment are those that it was made for. -/
theorem mem_names_uniform (hnodup : servers.Nodup) :
    server ∈ (uniform servers).names ↔ server ∈ servers := by
  rw [mem_names, hasServer_iff]
  simp only [shardsOf?_uniform hnodup]
  rw [List.mem_iff_getElem?]
  constructor
  · rintro ⟨shards, index, hname, -⟩
    exact ⟨index, hname⟩
  · rintro ⟨index, hname⟩
    exact ⟨_, index, hname, rfl⟩

/-- A server owns the hashes of its part. -/
theorem owns_uniform (hnodup : servers.Nodup) :
    (uniform servers).Owns server hash ↔ ∃ index : Nat, servers[index]? = some server ∧
      hash ∈ Shard.part servers.length.toUInt64 index.toUInt64 := by
  simp only [Owns, shardsOf?_uniform hnodup]
  constructor
  · rintro ⟨shards, ⟨index, hname, rfl⟩, hcovers⟩
    rw [Shard.covers_cons, or_iff_left Shard.covers_nil] at hcovers
    exact ⟨index, hname, hcovers⟩
  · rintro ⟨index, hname, hmem⟩
    exact ⟨_, ⟨index, hname, rfl⟩, Shard.covers_cons.mpr (.inl hmem)⟩

/-- With at least one server and fewer than there are hashes, the uniform assignment is a
partition. -/
theorem isPartition_uniform (hnodup : servers.Nodup) (hne : servers ≠ [])
    (hfew : servers.length < 4294967296) : (uniform servers).IsPartition where
  canonical := by
    intro server shards hshards
    obtain ⟨index, hname, rfl⟩ := (shardsOf?_uniform hnodup).mp hshards
    have hindex : index < servers.length := (List.getElem?_eq_some_iff.mp hname).1
    exact Shard.canonical_singleton (Shard.valid_part hfew hindex)
  owned := by
    intro hash
    have hpos := List.length_pos_iff.mpr hne
    obtain ⟨index, ⟨hindex, hmem⟩, hunique⟩ := Shard.existsUnique_mem_part hpos hfew hash
    refine ⟨servers[index], (owns_uniform hnodup).mpr ⟨index, by simp, hmem⟩, ?_⟩
    intro server howns
    obtain ⟨other, hname, hmem⟩ := (owns_uniform hnodup).mp howns
    obtain ⟨hother, rfl⟩ := List.getElem?_eq_some_iff.mp hname
    have heq := hunique other ⟨hother, hmem⟩
    subst heq
    rfl

end Assignment

end Keyspace
