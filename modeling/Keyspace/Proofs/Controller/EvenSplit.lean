/-
# The hash space is split evenly

A new controller gives each of its servers one range of hashes. The ranges stand in the
order in which the names first come up, follow each other without a gap from the first
hash to the last, and differ in size by one hash at most, because each is cut off at the
multiples of a quotient that are rounded down. Which of them holds a hash is found by a
division. The bounds are what arithmetic without a limit gives: no product, sum or
difference on the way leaves 64 bits, and no bound is too great for the 32 bits it is
cut down to.
-/

import Mathlib
import Keyspace.Proofs.Controller.Partition

namespace Keyspace

/-- What is left of a list is in the order of the list. -/
theorem idxOf_lt_of_filter {names : List String} {keep : String → Bool} {first second : String}
    (hfirst : keep first) (hsecond : keep second)
    (h : (names.filter keep).idxOf first < (names.filter keep).idxOf second) :
    names.idxOf first < names.idxOf second := by
  induction names with
  | nil => simp at h
  | cons name names ih => grind

/-- Dropping repetitions keeps the order in which the names first come up. -/
theorem pairwise_idxOf_eraseDups (names : List String) :
    names.eraseDups.Pairwise fun first second => names.idxOf first < names.idxOf second := by
  match names with
  | [] => exact .nil
  | name :: rest =>
      have hne : ∀ other ∈ (rest.filter fun other => !other == name).eraseDups, name ≠ other := by
        intro other hother heq
        have hfilter := List.mem_eraseDups.mp hother
        simp [heq] at hfilter
      rw [List.eraseDups_cons, List.pairwise_cons]
      constructor
      · intro other hother
        rw [List.idxOf_cons_self, List.idxOf_cons_ne _ (hne other hother)]
        exact Nat.succ_pos _
      · -- The name is not among the others, so leaving it out does not change their order.
        refine List.Pairwise.imp_of_mem ?_ (pairwise_idxOf_eraseDups _)
        intro first second hfirst hsecond hlt
        rw [List.idxOf_cons_ne _ (hne first hfirst), List.idxOf_cons_ne _ (hne second hsecond)]
        exact Nat.succ_lt_succ (idxOf_lt_of_filter (by simpa using (hne first hfirst).symm)
          (by simpa using (hne second hsecond).symm) hlt)
termination_by names.length
decreasing_by exact Nat.lt_succ_of_le (List.length_filter_le _ _)

namespace Shard

variable {count index : Nat}

/-- The number of hashes of a valid shard. -/
def size (s : Shard) : Nat := s.upper.toNat + 1 - s.lower.toNat

/-- Ranges, one for each number below `count`, that tile the hash space in their order and do not
differ in size by more than one hash. -/
structure TilesEvenly (count : Nat) (tile : Nat → Shard) : Prop where
  valid : ∀ index < count, (tile index).Valid
  starts : (tile 0).lower = 0
  ends : (tile (count - 1)).upper = maxHash
  abuts : ∀ index, index + 1 < count →
    (tile (index + 1)).lower.toNat = (tile index).upper.toNat + 1
  balanced : ∀ first < count, ∀ second < count, (tile first).size ≤ (tile second).size + 1

/-- The bounds of a part are computed as they would be without a limit on numbers: nothing wraps
around at 64 bits, and nothing is lost when the bounds are cut down to 32 bits. -/
structure ExactPart (count index : Nat) : Prop where
  count_eq : count.toUInt64.toNat = count
  index_eq : index.toUInt64.toNat = index
  next_eq : (index.toUInt64 + 1).toNat = index + 1
  start_product : (hashCount * index.toUInt64).toNat = 4294967296 * index
  end_product : (hashCount * (index.toUInt64 + 1)).toNat = 4294967296 * (index + 1)
  end_difference : (hashCount * (index.toUInt64 + 1) / count.toUInt64 - 1).toNat + 1 =
    4294967296 * (index + 1) / count
  lower_eq : (part count.toUInt64 index.toUInt64).lower.toNat =
    (hashCount * index.toUInt64 / count.toUInt64).toNat
  upper_eq : (part count.toUInt64 index.toUInt64).upper.toNat =
    (hashCount * (index.toUInt64 + 1) / count.toUInt64 - 1).toNat

/-- From one cut to the next it is the size of the space divided by the number of parts, rounded
down or up. -/
theorem cut_succ_bounds (hpos : 0 < count) (index : Nat) :
    cut count index + 4294967296 / count ≤ cut count (index + 1) ∧
      cut count (index + 1) ≤ cut count index + 4294967296 / count + 1 := by
  have hfloor := Nat.div_mul_le_self (4294967296 * index) count
  have hshare := Nat.div_mul_le_self 4294967296 count
  have hrest : 4294967296 * index < (cut count index + 1) * count :=
    (Nat.div_lt_iff_lt_mul hpos).mp (Nat.lt_succ_self _)
  have hshare_rest : 4294967296 < (4294967296 / count + 1) * count :=
    (Nat.div_lt_iff_lt_mul hpos).mp (Nat.lt_succ_self _)
  constructor
  · rw [cut, cut, Nat.le_div_iff_mul_le hpos, Nat.add_mul]
    omega
  · rw [← Nat.lt_succ_iff, cut, Nat.div_lt_iff_lt_mul hpos]
    have hsum : (cut count index + 4294967296 / count + 1).succ * count =
        (cut count index + 1) * count + (4294967296 / count + 1) * count := by
      rw [← Nat.add_mul]
      congr 1
      omega
    omega

/-- The size of a part is the distance of its cuts. -/
theorem size_part (hcount : count < 4294967296) (hindex : index < count) :
    (part count.toUInt64 index.toUInt64).size = cut count (index + 1) - cut count index := by
  rw [size, toNat_upper_part hcount hindex, toNat_lower_part hcount hindex]

/-- The parts of the hash space tile it evenly. -/
theorem tilesEvenly_part (hpos : 0 < count) (hcount : count < 4294967296) :
    TilesEvenly count fun index => part count.toUInt64 index.toUInt64 where
  valid := fun _ => valid_part hcount
  starts := by
    rw [← UInt32.toNat_inj, toNat_lower_part hcount hpos, cut, Nat.mul_zero, Nat.zero_div]
    rfl
  ends := by
    have hlast := toNat_upper_part hcount (Nat.sub_lt hpos Nat.one_pos)
    have hspace : cut count count = 4294967296 := Nat.mul_div_cancel _ hpos
    rw [Nat.sub_add_cancel hpos, hspace] at hlast
    rw [← UInt32.toNat_inj]
    exact Nat.succ.inj hlast
  abuts := by
    intro index hindex
    rw [toNat_upper_part hcount (Nat.lt_of_succ_lt hindex), toNat_lower_part hcount hindex]
  balanced := by
    intro first hfirst second hsecond
    have hlong := (cut_succ_bounds hpos first).2
    have hshort := (cut_succ_bounds hpos second).1
    rw [size_part hcount hfirst, size_part hcount hsecond]
    omega

/-- No step on the way to a part wraps around or cuts off. -/
theorem exactPart (hcount : count < 4294967296) (hindex : index < count) :
    ExactPart count index := by
  have hn := toNat_toUInt64 hcount
  have hi := toNat_toUInt64 (Nat.lt_trans hindex hcount)
  have hnext : (index.toUInt64 + 1).toNat = index + 1 := toNat_succ_index hcount hindex
  have hlower := toNat_lower_part hcount hindex
  have hupper := toNat_upper_part hcount hindex
  have hend := toNat_end_part hcount hindex
  refine ⟨hn, hi, hnext, ?_, ?_, hend, ?_, ?_⟩
  · rw [toNat_hashCount_mul (by omega), hi]
  · rw [toNat_hashCount_mul (by omega), hnext]
  · rw [hlower, toNat_hashCount_mul_div (by omega) (by omega), hn, hi]
  · omega

end Shard

namespace Controller

/-- A controller of at least one server, and of fewer than there are hashes, starts with one range
for each name, in the order in which the names first come up. The ranges tile the hash space evenly,
a hash belongs to the name whose number its division gives, and no number on the way to a bound is
too great for its type. -/
theorem ofServers_splits_evenly (servers : List String) (hne : servers ≠ [])
    (hfew : servers.eraseDups.length < UInt32.size) :
    let names := servers.eraseDups
    let count := names.length
    let part (index : Nat) := Shard.part count.toUInt64 index.toUInt64
    let start := (ofServers servers).current
    (∀ server, server ∈ names ↔ server ∈ servers) ∧
    names.Pairwise (fun first second => servers.idxOf first < servers.idxOf second) ∧
    (∀ server shards, start.shardsOf? server = some shards ↔
      ∃ index : Nat, names[index]? = some server ∧ shards = [part index]) ∧
    Shard.TilesEvenly count part ∧
    (∀ hash : UInt32, ∃ server,
      names[((hash.toNat + 1) * count - 1) / 4294967296]? = some server ∧
        start.owner? hash = some server ∧ ∀ other, start.Owns other hash ↔ other = server) ∧
    ∀ index < count, Shard.ExactPart count index := by
  intro names count part start
  have hnodup := nodup_eraseDups servers
  have hpos : 0 < count := by
    obtain ⟨server, hserver⟩ := List.exists_mem_of_ne_nil servers hne
    exact List.length_pos_of_mem (List.mem_eraseDups.mpr hserver)
  have hpartition : start.IsPartition := isPartition_ofServers hne hfew
  refine ⟨fun _ => List.mem_eraseDups, pairwise_idxOf_eraseDups servers,
    fun _ _ => Assignment.shardsOf?_uniform hnodup, Shard.tilesEvenly_part hpos hfew, ?_,
    fun _ => Shard.exactPart hfew⟩
  intro hash
  have hindex := Shard.part_index_lt hpos hash
  have howns : start.Owns names[((hash.toNat + 1) * count - 1) / 4294967296] hash :=
    (Assignment.owns_uniform hnodup).mpr
      ⟨_, List.getElem?_eq_getElem hindex, (Shard.mem_part_iff_index_eq hfew hindex).mpr rfl⟩
  refine ⟨_, List.getElem?_eq_getElem hindex, hpartition.owner?_eq_some_iff.mpr howns, ?_⟩
  intro other
  exact ⟨fun h => (hpartition.owned hash).unique h howns, fun heq => heq ▸ howns⟩

/-- Three servers, one of them named twice. The space is no multiple of three, so one part has a
hash more than the others. -/
theorem ofServers_splits_evenly_three :
    let servers := ["b", "a", "b", "c"]
    let start := (ofServers servers).current
    servers ≠ [] ∧ servers.eraseDups.length < UInt32.size ∧
      start.shardsOf? "a" = some [⟨1431655765, 2863311529⟩] ∧
      start.owner? 1431655765 = some "a" := by
  intro servers start
  have hne : servers ≠ [] := by decide
  have hfew : servers.eraseDups.length < UInt32.size := by decide
  obtain ⟨-, -, hranges, -, howner, -⟩ := ofServers_splits_evenly servers hne hfew
  refine ⟨hne, hfew, (hranges _ _).mpr ⟨1, by decide, by decide⟩, ?_⟩
  obtain ⟨server, hserver, hfound, -⟩ := howner 1431655765
  rwa [show server = "a" from Option.some.inj (hserver.symm.trans (by decide))] at hfound

end Controller

end Keyspace
