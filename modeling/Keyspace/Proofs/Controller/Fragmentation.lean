/-
# Moves break the hash space up slowly

In a partition a shard starts at the first hash, and wherever the owner of a hash is not
the owner of the hash before it. It starts nowhere else, because the shards of one server
leave a hash out between them, and no two shards start at the same hash. So the stored
shards are counted by looking at owners, whatever servers hold them.

A move makes all hashes that its shards cover have one owner and leaves the others to
theirs. Where the owner changes after a move and did not change before, one of two
neighbours is covered and the other is not, so one of the moved shards starts there or
ends just below. Each of them can account for two such places and no more, however they
overlap and whomever they are taken from.
-/

import Mathlib
import Keyspace.Proofs.Controller.MoveAlgebra

namespace Keyspace

namespace Shard

variable {hash : UInt32} {s : Shard} {shards : List Shard}

/-- Where shards start, and where they have just ended. -/
def edges (shards : List Shard) : List UInt32 := shards.flatMap fun s => [s.lower, s.upper + 1]

theorem length_edges (shards : List Shard) : (edges shards).length = 2 * shards.length := by
  rw [edges, List.length_flatMap]
  simp [Nat.mul_comm]

/-- The hash before any but the first is one less. -/
theorem toNat_pred (hne : hash ≠ 0) : (hash - 1).toNat + 1 = hash.toNat := by
  have hpos : (0 : UInt32) < hash := by
    rw [UInt32.lt_iff_toNat_lt]
    exact Nat.pos_of_ne_zero fun h => hne (UInt32.toNat_inj.mp h)
  have hlt := UInt32.lt_iff_toNat_lt.mp hpos
  rw [toNat_sub_one hpos]
  omega

/-- A shard that starts above the hash before, and not above the hash, starts with it. -/
theorem eq_lower_of_mem (hne : hash ≠ 0) (hin : hash ∈ s) (hout : hash - 1 ∉ s) :
    hash = s.lower := by
  have hpred := toNat_pred hne
  rw [mem_iff_toNat] at hin hout
  rw [← UInt32.toNat_inj]
  omega

/-- A shard that ends below the hash, and not below the hash before, ends just below it. -/
theorem eq_upper_add_one_of_mem (hne : hash ≠ 0) (hin : hash - 1 ∈ s) (hout : hash ∉ s) :
    hash = s.upper + 1 := by
  have hpred := toNat_pred hne
  rw [mem_iff_toNat] at hin hout
  have hend : hash - 1 = s.upper := by
    rw [← UInt32.toNat_inj]
    omega
  rw [← hend, UInt32.sub_add_cancel]

/-- Where one of two neighbours is covered and the other is not, there is an edge. -/
theorem mem_edges_of_covers (hne : hash ≠ 0)
    (h : ¬ (Covers shards (hash - 1) ↔ Covers shards hash)) : hash ∈ edges shards := by
  rw [edges, List.mem_flatMap]
  by_cases hcovers : Covers shards hash
  · obtain ⟨s, hs, hin⟩ := hcovers
    have hout : hash - 1 ∉ s := fun hin' => h ⟨fun _ => ⟨s, hs, hin⟩, fun _ => ⟨s, hs, hin'⟩⟩
    exact ⟨s, hs, by simp [← eq_lower_of_mem hne hin hout]⟩
  · have hbefore : Covers shards (hash - 1) := by
      by_contra hnot
      exact h (iff_of_false hnot hcovers)
    obtain ⟨s, hs, hin⟩ := hbefore
    have hout : hash ∉ s := fun hin' => hcovers ⟨s, hs, hin'⟩
    exact ⟨s, hs, by simp [← eq_upper_add_one_of_mem hne hin hout]⟩

/-- The hash before a shard of a canonical list is not covered. -/
theorem Canonical.not_covers_pred (h : Canonical shards) (hs : s ∈ shards) (hne : s.lower ≠ 0) :
    ¬ Covers shards (s.lower - 1) := by
  have hpred := toNat_pred hne
  have hvalid := valid_iff_toNat.mp (h.valid s hs)
  rintro ⟨t, ht, hin⟩
  rw [mem_iff_toNat] at hin
  obtain ⟨before, after, rfl⟩ := List.append_of_mem hs
  have hascending := h.ascending
  rw [List.pairwise_append, List.pairwise_cons] at hascending
  obtain ⟨-, ⟨hafter, -⟩, hbefore⟩ := hascending
  rcases List.mem_append.mp ht with ht | ht
  · have hgap := hbefore t ht s List.mem_cons_self
    unfold Before at hgap
    omega
  · rcases List.mem_cons.mp ht with rfl | ht
    · omega
    · have hgap := hafter t ht
      unfold Before at hgap
      omega

end Shard

namespace Assignment

variable {a b : Assignment} {hash : UInt32} {server : String} {shards : List Shard}

/-- The number of stored shards, over all servers. -/
def shardCount (a : Assignment) : Nat := (a.toList.map fun entry => entry.2.length).sum

/-- The hashes at which the stored shards start, server by server. -/
def starts (a : Assignment) : List UInt32 := a.toList.flatMap fun entry => entry.2.map (·.lower)

theorem length_starts (a : Assignment) : a.starts.length = a.shardCount := by
  simp [starts, shardCount, List.length_flatMap]

theorem mem_starts : hash ∈ a.starts ↔
    ∃ server shards, a.shardsOf? server = some shards ∧ ∃ s ∈ shards, s.lower = hash := by
  simp [starts, mem_toList]

/-- A server of a partition owns the hashes at which its shards start. -/
theorem IsPartition.owns_lower (h : a.IsPartition) {s : Shard}
    (hshards : a.shardsOf? server = some shards) (hs : s ∈ shards) : a.Owns server s.lower :=
  ⟨shards, hshards, s, hs, ((h.canonical server shards hshards).valid s hs).lower_mem⟩

/-- In a partition a shard starts at the first hash and wherever the owner changes. -/
theorem IsPartition.mem_starts_iff (h : a.IsPartition) :
    hash ∈ a.starts ↔ hash = 0 ∨ a.owner? (hash - 1) ≠ a.owner? hash := by
  rw [mem_starts]
  constructor
  · rintro ⟨server, shards, hshards, s, hs, rfl⟩
    have howner := h.owner?_eq_some_iff.mpr (h.owns_lower hshards hs)
    by_cases hfirst : s.lower = 0
    · exact .inl hfirst
    · right
      rw [howner, ne_eq, ← h.covers_iff hshards]
      exact (h.canonical server shards hshards).not_covers_pred hs hfirst
  · intro hchange
    obtain ⟨server, ⟨shards, hshards, s, hs, hin⟩, -⟩ := h.owned hash
    refine ⟨server, shards, hshards, s, hs, ?_⟩
    by_contra hstart
    -- A shard with the hash that starts earlier has the hash before it, too.
    have hne : hash ≠ 0 := by
      rintro rfl
      exact hstart (UInt32.le_antisymm hin.1 (UInt32.zero_le))
    have hpred : hash - 1 ∈ s := by
      by_contra hout
      exact hstart (Shard.eq_lower_of_mem hne hin hout).symm
    have howner := (h.covers_iff hshards).mp ⟨s, hs, hin⟩
    have howner' := (h.covers_iff hshards).mp ⟨s, hs, hpred⟩
    exact hchange.elim hne fun hdiffer => hdiffer (howner'.trans howner.symm)

/-- No two shards of a partition start at the same hash. -/
theorem IsPartition.nodup_starts (h : a.IsPartition) : a.starts.Nodup := by
  rw [starts, List.nodup_flatMap]
  constructor
  · rintro ⟨server, shards⟩ hentry
    have hcanonical := h.canonical server shards (mem_toList.mp hentry)
    refine List.pairwise_map.mpr (hcanonical.ascending.imp_of_mem ?_)
    intro s t hs _ hbefore heq
    have hvalid := Shard.valid_iff_toNat.mp (hcanonical.valid s hs)
    unfold Shard.Before at hbefore
    rw [heq] at hvalid
    omega
  · have hdistinct : a.toList.Pairwise fun first second => ¬ compare first.1 second.1 = .eq :=
      Std.ExtTreeMap.distinct_keys_toList
    refine hdistinct.imp_of_mem ?_
    rintro ⟨server, shards⟩ ⟨other, held⟩ hentry hentry' hne hash hstart hstart'
    obtain ⟨s, hs, rfl⟩ := List.mem_map.mp hstart
    obtain ⟨t, ht, heq⟩ := List.mem_map.mp hstart'
    have howns := h.owns_lower (mem_toList.mp hentry) hs
    have howns' := h.owns_lower (mem_toList.mp hentry') ht
    rw [heq] at howns'
    exact hne (Std.LawfulEqCmp.compare_eq_iff_eq.mpr ((h.owned _).unique howns howns'))

/-- If the shards of a partition start where those of another assignment do, or at the edges of some
shards, it has at most two shards more for each of these. -/
theorem IsPartition.shardCount_le (h : a.IsPartition) {moved : List Shard}
    (hstarts : a.starts ⊆ b.starts ++ Shard.edges moved) :
    a.shardCount ≤ b.shardCount + 2 * moved.length := by
  have hlength := (List.subperm_of_subset h.nodup_starts hstarts).length_le
  rwa [List.length_append, length_starts, length_starts, Shard.length_edges] at hlength

/-- The uniform assignment stores one shard for each server. -/
theorem shardCount_uniform {servers : List String} (hnodup : servers.Nodup) :
    (uniform servers).shardCount = servers.length := by
  have hone : ∀ count ∈ (uniform servers).toList.map fun entry => entry.2.length, count = 1 := by
    intro count hcount
    obtain ⟨⟨server, shards⟩, hentry, rfl⟩ := List.mem_map.mp hcount
    obtain ⟨index, -, rfl⟩ := (shardsOf?_uniform hnodup).mp (mem_toList.mp hentry)
    rfl
  have hnames : (uniform servers).names.Perm servers :=
    (List.perm_ext_iff_of_nodup Std.ExtTreeMap.nodup_keys hnodup).mpr fun _ =>
      mem_names_uniform hnodup
  rw [shardCount, List.sum_eq_card_nsmul _ 1 hone, List.length_map, smul_eq_mul, Nat.mul_one,
    ← hnames.length_eq]
  exact (Std.ExtTreeMap.length_toList).trans Std.ExtTreeMap.length_keys.symm

end Assignment

namespace Controller

variable {controller : Controller} {m : Move} {servers : List String}

/-! ## One move -/

/-- After an accepted move shards start where they did before, or at an edge of a moved shard. -/
theorem starts_startMove_subset (hpartition : controller.current.IsPartition)
    (h : m.Accepted controller.current.names) :
    (controller.startMove m).2.current.starts ⊆
      controller.current.starts ++ Shard.edges m.shards := by
  intro hash hstart
  rw [(isPartition_startMove hpartition).mem_starts_iff, owner?_startMove hpartition,
    owner?_startMove hpartition] at hstart
  simp only [h.takes_iff] at hstart
  rw [List.mem_append, hpartition.mem_starts_iff]
  by_cases hfirst : hash = 0
  · exact .inl (.inl hfirst)
  · by_cases hsame : Shard.Covers m.shards (hash - 1) ↔ Shard.Covers m.shards hash
    · -- Both neighbours have a new owner, and the same, or both keep theirs.
      have hchange := hstart.resolve_left hfirst
      simp only [hsame] at hchange
      split_ifs at hchange
      · exact absurd rfl hchange
      · exact .inl (.inr hchange)
    · exact .inr (Shard.mem_edges_of_covers hfirst hsame)

/-- An accepted move adds at most two shards for each shard that it moves. -/
theorem shardCount_startMove_le (hpartition : controller.current.IsPartition)
    (hok : (controller.startMove m).1 = .ok ()) :
    (controller.startMove m).2.current.shardCount ≤
      controller.current.shardCount + 2 * m.shards.length :=
  (isPartition_startMove hpartition).shardCount_le
    (starts_startMove_subset hpartition (startMove_eq_ok_iff.mp hok))

/-! ## Runs of moves -/

/-- The number of shards that the accepted moves of a run move. -/
def movedCount (controller : Controller) : List Move → Nat
  | [] => 0
  | m :: moves =>
    let (outcome, after) := controller.startMove m
    match outcome with
    | .ok () => m.shards.length + movedCount after moves
    | .error _ => movedCount after moves

/-- A run of moves adds at most two shards for each shard that one of its accepted moves moves. -/
theorem shardCount_afterMoves_le (hpartition : controller.current.IsPartition)
    (moves : List Move) :
    (controller.afterMoves moves).current.shardCount ≤
      controller.current.shardCount + 2 * controller.movedCount moves := by
  induction moves generalizing controller with
  | nil => exact Nat.le_refl _
  | cons m moves ih =>
      have hrest := ih (isPartition_startMove (m := m) hpartition)
      have hafter : controller.afterMoves (m :: moves) =
          (controller.startMove m).2.afterMoves moves := rfl
      rw [hafter, movedCount]
      by_cases haccepted : m.Accepted controller.current.names
      · have hok := startMove_eq_ok_iff.mpr haccepted
        have hone := shardCount_startMove_le hpartition hok
        simp only [hok]
        omega
      · obtain ⟨error, hrefused⟩ := startMove_of_not_accepted haccepted
        rw [hrefused] at hrest ⊢
        exact hrest

/-- At any point of a run an accepted move adds to the stored shards, counted over all servers, at
most two for each shard that it moves. So there are never more than one for each server and two for
each shard that was moved, however often and from whomever. -/
theorem moves_fragment_slowly (servers : List String) (hne : servers ≠ [])
    (hfew : servers.eraseDups.length < UInt32.size) (moves : List Move) :
    let start := ofServers servers
    let reached := start.afterMoves moves
    (∀ m : Move, (reached.startMove m).1 = .ok () →
      (reached.startMove m).2.current.shardCount ≤
        reached.current.shardCount + 2 * m.shards.length) ∧
    reached.current.shardCount ≤ servers.eraseDups.length + 2 * start.movedCount moves := by
  intro start reached
  have hstart : start.current.IsPartition := isPartition_ofServers hne hfew
  have hcount : start.current.shardCount = servers.eraseDups.length :=
    Assignment.shardCount_uniform (nodup_eraseDups servers)
  constructor
  · exact fun m => shardCount_startMove_le (isPartition_afterMoves hstart moves)
  · rw [← hcount]
    exact shardCount_afterMoves_le hstart moves

/-- Shards that overlap are moved together, and two moves are refused on the way. A shard in the
middle of another one is what adds as many shards as a move can. -/
theorem moves_fragment_slowly_overlapping :
    let servers := ["b", "a", "b"]
    let start := ofServers servers
    let moves : List Move :=
      [⟨"a", [⟨5, 6⟩, ⟨10, 20⟩, ⟨15, 30⟩]⟩, ⟨"c", [Shard.full]⟩, ⟨"a", [⟨9, 3⟩]⟩]
    let reached := start.afterMoves moves
    let m : Move := ⟨"b", [⟨12, 12⟩]⟩
    servers ≠ [] ∧ servers.eraseDups.length < UInt32.size ∧ (reached.startMove m).1 = .ok () ∧
      (reached.startMove m).2.current.shardCount ≤ reached.current.shardCount + 2 ∧
      reached.current.shardCount ≤ 8 := by
  intro servers start moves reached m
  have hne : servers ≠ [] := by decide
  have hfew : servers.eraseDups.length < UInt32.size := by decide
  have hok : (reached.startMove m).1 = .ok () := by decide +kernel
  have hmoved : start.movedCount moves = 3 := by decide +kernel
  obtain ⟨hmove, hrun⟩ := moves_fragment_slowly servers hne hfew moves
  rw [hmoved] at hrun
  exact ⟨hne, hfew, hok, hmove m hok, hrun⟩

end Controller

end Keyspace
