/-
# Owners determine the stored shards

The list that is stored for a server is canonical after every run of moves. For the
destination of a move the list is normalized; the others are only carved, but carving
valid shards out of a canonical list leaves a canonical list. A canonical list is
determined by what it covers, and in a partition a server covers what it owns. So
nothing of the history is left in an assignment but the owners of the hashes: two
controllers of the same servers on which these agree hold equal assignments.
-/

import Mathlib
import Keyspace.Proofs.Controller.History
import Keyspace.Proofs.Shard.Canonical

namespace Keyspace

namespace Assignment

variable {a b : Assignment} {server : String} {shards : List Shard} {hash : UInt32}

/-- The shards of a server of a partition cover the hashes whose owner it is. -/
theorem IsPartition.covers_iff (h : a.IsPartition) (hshards : a.shardsOf? server = some shards) :
    Shard.Covers shards hash ↔ a.owner? hash = some server := by
  rw [h.owner?_eq_some_iff, Owns]
  simp only [hshards, Option.some.injEq, exists_eq_left']

/-- Partitions among the same servers are equal if every hash has the same owner in both. -/
theorem IsPartition.eq_of_owner?_eq (h : a.IsPartition) (h' : b.IsPartition)
    (hnames : ∀ server, server ∈ a.names ↔ server ∈ b.names)
    (howner : ∀ hash, a.owner? hash = b.owner? hash) : a = b := by
  have hshards : ∀ server, a.shardsOf? server = b.shardsOf? server := by
    intro server
    have hserver := hnames server
    rw [mem_names, mem_names, hasServer_iff, hasServer_iff] at hserver
    cases hfirst : a.shardsOf? server with
    | none =>
        have hnone : ¬ ∃ shards, b.shardsOf? server = some shards := by
          rw [← hserver, hfirst]
          nofun
        exact (Option.eq_none_iff_forall_ne_some.mpr fun shards hsome => hnone ⟨shards, hsome⟩).symm
    | some shards =>
        obtain ⟨shards', hsecond⟩ := hserver.mp ⟨shards, hfirst⟩
        have heq : shards = shards' := by
          apply (h.canonical server shards hfirst).eq_of_covers_iff
            (h'.canonical server shards' hsecond)
          intro hash
          rw [h.covers_iff hfirst, h'.covers_iff hsecond, howner]
        rw [hsecond, heq]
  obtain ⟨servers⟩ := a
  obtain ⟨servers'⟩ := b
  exact congrArg Assignment.mk (Std.ExtTreeMap.ext_getElem? fun server => hshards server)

/-- There is only one assignment without servers. -/
theorem eq_of_names_eq_nil (h : a.names = []) (h' : b.names = []) : a = b := by
  obtain ⟨servers⟩ := a
  obtain ⟨servers'⟩ := b
  obtain rfl : servers = ∅ := Std.ExtTreeMap.keys_eq_nil_iff.mp h
  obtain rfl : servers' = ∅ := Std.ExtTreeMap.keys_eq_nil_iff.mp h'
  rfl

end Assignment

namespace Controller

variable {servers others : List String}

/-- A controller of no servers never has any. -/
theorem names_afterMoves_ofServers_nil (moves : List Move) :
    ((ofServers []).afterMoves moves).current.names = [] := by
  rw [names_afterMoves]
  rfl

/-- The shards that a controller stores for a server are canonical. That the controller has at least
one server need not be said, because without servers nothing is stored. -/
theorem canonical_afterMoves (hfew : servers.eraseDups.length < UInt32.size) (moves : List Move)
    {server : String} {shards : List Shard}
    (hshards : ((ofServers servers).afterMoves moves).current.shardsOf? server = some shards) :
    Shard.Canonical shards := by
  by_cases hne : servers = []
  · subst hne
    have hserver := Assignment.mem_names.mpr (Assignment.hasServer_iff.mpr ⟨shards, hshards⟩)
    rw [names_afterMoves_ofServers_nil] at hserver
    cases hserver
  · exact (isPartition_afterMoves (isPartition_ofServers hne hfew) moves).canonical _ _ hshards

/-- After every run of moves the list that is stored for a server, whether it was ever a destination
or only carved, consists of valid shards in ascending order, each of which ends at least two below
the start of the next. Therefore two controllers of the same servers on which every hash has the
same owner hold equal assignments, whatever moves led there. -/
theorem afterMoves_determined_by_owners (servers : List String)
    (hfew : servers.eraseDups.length < UInt32.size) (moves : List Move) :
    let reached := ((ofServers servers).afterMoves moves).current
    (∀ server shards, reached.shardsOf? server = some shards →
      (∀ s ∈ shards, s.lower ≤ s.upper) ∧
        shards.Pairwise fun s t => s.lower < t.lower ∧ s.upper.toNat + 2 ≤ t.lower.toNat) ∧
      ∀ others moves', (∀ server, server ∈ servers ↔ server ∈ others) →
        let reached' := ((ofServers others).afterMoves moves').current
        (∀ hash, reached.owner? hash = reached'.owner? hash) → reached = reached' := by
  intro reached
  refine ⟨?_, ?_⟩
  · intro server shards hshards
    have hcanonical := canonical_afterMoves hfew moves hshards
    refine ⟨hcanonical.valid, hcanonical.ascending.imp_of_mem ?_⟩
    intro s t hs _ hbefore
    have hvalid := Shard.valid_iff_toNat.mp (hcanonical.valid s hs)
    unfold Shard.Before at hbefore
    rw [UInt32.lt_iff_toNat_lt]
    omega
  · intro others moves' hsame reached' howner
    by_cases hne : servers = []
    · have hnone : others = [] := by
        rw [List.eq_nil_iff_forall_not_mem]
        intro server hserver
        exact List.not_mem_nil (hne ▸ (hsame server).mpr hserver)
      subst hne hnone
      exact Assignment.eq_of_names_eq_nil (names_afterMoves_ofServers_nil moves)
        (names_afterMoves_ofServers_nil moves')
    · have hperm : servers.eraseDups.Perm others.eraseDups := by
        rw [List.perm_ext_iff_of_nodup (nodup_eraseDups servers) (nodup_eraseDups others)]
        simpa [List.mem_eraseDups] using hsame
      have hne' : others ≠ [] := by
        rintro rfl
        exact hne (List.eq_nil_iff_forall_not_mem.mpr fun server hserver =>
          List.not_mem_nil ((hsame server).mp hserver))
      have hfew' : others.eraseDups.length < UInt32.size := hperm.length_eq ▸ hfew
      refine (isPartition_afterMoves (isPartition_ofServers hne hfew) moves).eq_of_owner?_eq
        (isPartition_afterMoves (isPartition_ofServers hne' hfew') moves') ?_ howner
      intro server
      rw [names_afterMoves, names_afterMoves, mem_names_ofServers, mem_names_ofServers, hsame]

/-- One move takes all hashes at once, a run of three takes them all away and brings them back in
two parts, with a refused move between. Both end in the same assignment. -/
theorem afterMoves_determined_by_owners_piecewise :
    let servers := ["b", "a", "b"]
    let others := ["a", "b"]
    let moves : List Move := [⟨"a", [Shard.full]⟩]
    let moves' : List Move :=
      [⟨"b", [Shard.full]⟩, ⟨"a", [⟨10, maxHash⟩]⟩, ⟨"c", [⟨0, 9⟩]⟩, ⟨"a", [⟨0, 9⟩]⟩]
    let reached := ((ofServers servers).afterMoves moves).current
    let reached' := ((ofServers others).afterMoves moves').current
    servers.eraseDups.length < UInt32.size ∧ (∀ server, server ∈ servers ↔ server ∈ others) ∧
      (∀ hash, reached.owner? hash = reached'.owner? hash) ∧ reached = reached' := by
  intro servers others moves moves' reached reached'
  have hfew : servers.eraseDups.length < UInt32.size := by decide
  have hsame : ∀ server, server ∈ servers ↔ server ∈ others := by simp [servers, others, or_comm]
  have howner : ∀ hash, reached.owner? hash = some "a" := by
    intro hash
    have hbound : hash.toNat < 4294967296 := hash.toNat_lt
    have htakes : Move.Takes servers hash ⟨"a", [Shard.full]⟩ := by
      refine ⟨by decide, Shard.full, List.mem_singleton_self _, ?_⟩
      rw [Shard.mem_iff_toNat]
      show 0 ≤ hash.toNat ∧ hash.toNat ≤ 4294967295
      omega
    have hlast : lastDestination? servers moves hash = some "a" := by
      simp [lastDestination?, moves, htakes]
    rw [owner?_afterMoves (isPartition_ofServers (by decide) hfew),
      lastDestination?_congr fun _ => mem_names_ofServers, hlast]
    rfl
  have howner' : ∀ hash, reached'.owner? hash = some "a" := by
    intro hash
    have hbound : hash.toNat < 4294967296 := hash.toNat_lt
    have hlast : lastDestination? others moves' hash = some "a" := by
      by_cases hlow : Move.Takes others hash ⟨"a", [⟨0, 9⟩]⟩
      · simp [lastDestination?, moves', hlow]
      · have hhigh : Move.Takes others hash ⟨"a", [⟨10, maxHash⟩]⟩ := by
          refine ⟨by decide, _, List.mem_singleton_self _, ?_⟩
          have hout : hash ∉ (⟨0, 9⟩ : Shard) := fun hmem =>
            hlow ⟨by decide, _, List.mem_singleton_self _, hmem⟩
          rw [Shard.mem_iff_toNat] at hout ⊢
          change ¬ (0 ≤ hash.toNat ∧ hash.toNat ≤ 9) at hout
          show 10 ≤ hash.toNat ∧ hash.toNat ≤ 4294967295
          omega
        have hunknown : ¬ Move.Takes others hash ⟨"c", [⟨0, 9⟩]⟩ := fun htakes =>
          absurd htakes.1.2 (by decide)
        simp [lastDestination?, moves', hlow, hhigh, hunknown]
    rw [owner?_afterMoves (isPartition_ofServers (by decide) (by decide)),
      lastDestination?_congr fun _ => mem_names_ofServers, hlast]
    rfl
  refine ⟨hfew, hsame, fun hash => (howner hash).trans (howner' hash).symm, ?_⟩
  exact (afterMoves_determined_by_owners servers hfew moves).2 others moves' hsame fun hash =>
    (howner hash).trans (howner' hash).symm

end Controller

end Keyspace
