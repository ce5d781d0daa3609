/-
# The algebra of moves

A controller whose hash space is partitioned is determined by the owners of the hashes,
and a move makes its destination the owner of the hashes that its shards cover. What
moves do to the stored shards is therefore what they do to owners: of a list of shards
only its cover matters, moves of different hashes commute, a later move hides an earlier
one of fewer hashes, and giving hashes to their owner, or giving them away and back,
changes nothing. All of these are equalities of what is stored.
-/

import Mathlib
import Keyspace.Proofs.Controller.Representation

namespace Keyspace

variable {known : List String} {m later : Move} {hash : UInt32}

/-- An accepted move takes the hashes that its shards cover. -/
theorem Move.Accepted.takes_iff (h : m.Accepted known) :
    m.Takes known hash ↔ Shard.Covers m.shards hash :=
  and_iff_right h

theorem Move.Accepted.lastDestination?_singleton (h : m.Accepted known) :
    lastDestination? known [m] hash =
      if Shard.Covers m.shards hash then some m.destination else none := by
  have hlast := lastDestination?_concat known [] m hash
  simp only [h.takes_iff] at hlast
  exact hlast

theorem Move.Accepted.lastDestination?_pair (h : m.Accepted known) (h' : later.Accepted known) :
    lastDestination? known [m, later] hash =
      if Shard.Covers later.shards hash then some later.destination
      else if Shard.Covers m.shards hash then some m.destination else none := by
  have hlast := lastDestination?_concat known [m] later hash
  simp only [h'.takes_iff, h.lastDestination?_singleton] at hlast
  exact hlast

namespace Controller

variable {controller : Controller} {servers : List String}

/-- Runs of moves that leave every hash to the same owner lead to the same controller. -/
theorem afterMoves_eq_of_lastDestination? (hpartition : controller.current.IsPartition)
    {moves moves' : List Move}
    (h : ∀ hash, (lastDestination? controller.current.names moves hash).or
        (controller.current.owner? hash) =
      (lastDestination? controller.current.names moves' hash).or
        (controller.current.owner? hash)) :
    controller.afterMoves moves = controller.afterMoves moves' := by
  have hcurrent :
      (controller.afterMoves moves).current = (controller.afterMoves moves').current := by
    refine (isPartition_afterMoves hpartition moves).eq_of_owner?_eq
      (isPartition_afterMoves hpartition moves') ?_ ?_
    · intro server
      rw [names_afterMoves, names_afterMoves]
    · intro hash
      rw [owner?_afterMoves hpartition, owner?_afterMoves hpartition, h]
  exact congrArg Controller.mk hcurrent

/-- An accepted move leads to what its destination and its cover say. -/
theorem startMove_eq_of_covers_iff (hpartition : controller.current.IsPartition)
    {destination : String} {shards shards' : List Shard}
    (h : Move.Accepted controller.current.names ⟨destination, shards⟩)
    (h' : Move.Accepted controller.current.names ⟨destination, shards'⟩)
    (hcovers : ∀ hash, Shard.Covers shards hash ↔ Shard.Covers shards' hash) :
    controller.startMove ⟨destination, shards⟩ = controller.startMove ⟨destination, shards'⟩ := by
  have hafter : controller.afterMoves [⟨destination, shards⟩] =
      controller.afterMoves [⟨destination, shards'⟩] := by
    refine afterMoves_eq_of_lastDestination? hpartition fun hash => ?_
    rw [h.lastDestination?_singleton, h'.lastDestination?_singleton]
    simp only [hcovers]
  exact Prod.ext ((startMove_eq_ok_iff.mpr h).trans (startMove_eq_ok_iff.mpr h').symm) hafter

/-- Moves of different hashes commute. -/
theorem afterMoves_comm (hpartition : controller.current.IsPartition) {m later : Move}
    (h : m.Accepted controller.current.names) (h' : later.Accepted controller.current.names)
    (hdisjoint : ∀ hash, ¬ (Shard.Covers m.shards hash ∧ Shard.Covers later.shards hash)) :
    controller.afterMoves [m, later] = controller.afterMoves [later, m] := by
  refine afterMoves_eq_of_lastDestination? hpartition fun hash => ?_
  rw [h.lastDestination?_pair h', h'.lastDestination?_pair h]
  split_ifs with hlater hm
  · exact absurd ⟨hm, hlater⟩ (hdisjoint hash)
  all_goals rfl

/-- A move hides an earlier one of some of its hashes. -/
theorem afterMoves_of_covers_imp (hpartition : controller.current.IsPartition) {m later : Move}
    (h : m.Accepted controller.current.names) (h' : later.Accepted controller.current.names)
    (hcovers : ∀ hash, Shard.Covers m.shards hash → Shard.Covers later.shards hash) :
    controller.afterMoves [m, later] = controller.afterMoves [later] := by
  refine afterMoves_eq_of_lastDestination? hpartition fun hash => ?_
  rw [h.lastDestination?_pair h', h'.lastDestination?_singleton]
  split_ifs with hlater hm
  · rfl
  · exact absurd (hcovers hash hm) hlater
  · rfl

/-- Giving hashes to their owner changes nothing. -/
theorem afterMoves_of_owns (hpartition : controller.current.IsPartition) {m : Move}
    (h : m.Accepted controller.current.names)
    (howns : ∀ hash, Shard.Covers m.shards hash → controller.current.Owns m.destination hash) :
    controller.afterMoves [m] = controller := by
  show controller.afterMoves [m] = controller.afterMoves []
  refine afterMoves_eq_of_lastDestination? hpartition fun hash => ?_
  rw [h.lastDestination?_singleton]
  split_ifs with hcovers
  · rw [hpartition.owner?_eq_some_iff.mpr (howns hash hcovers)]
    rfl
  · rfl

/-- In every state that a run of moves leads to, whatever the moves asked for, an accepted move
succeeds, and what is stored after it depends on nothing but its destination and the hashes that
its shards cover. Moves of different hashes can be made in either order; a move leads to the same
state whether or not some of its hashes were moved before, by itself or otherwise; and nothing is
changed by giving hashes to their owner, or by giving them away and back. -/
theorem moves_act_on_hashes (servers : List String)
    (hfew : servers.eraseDups.length < UInt32.size) (history : List Move) :
    let reached := (ofServers servers).afterMoves history
    (∀ destination shards shards', Move.Accepted servers ⟨destination, shards⟩ →
      Move.Accepted servers ⟨destination, shards'⟩ →
      (∀ hash, Shard.Covers shards hash ↔ Shard.Covers shards' hash) →
      reached.startMove ⟨destination, shards⟩ = reached.startMove ⟨destination, shards'⟩ ∧
        (reached.startMove ⟨destination, shards⟩).1 = .ok ()) ∧
    (∀ m later : Move, m.Accepted servers → later.Accepted servers →
      (∀ hash, ¬ (Shard.Covers m.shards hash ∧ Shard.Covers later.shards hash)) →
      reached.afterMoves [m, later] = reached.afterMoves [later, m]) ∧
    (∀ m later : Move, m.Accepted servers → later.Accepted servers →
      (∀ hash, Shard.Covers m.shards hash → Shard.Covers later.shards hash) →
      reached.afterMoves [m, later] = reached.afterMoves [later]) ∧
    (∀ m : Move, m.Accepted servers →
      (∀ hash, Shard.Covers m.shards hash → reached.current.Owns m.destination hash) →
      reached.afterMoves [m] = reached) ∧
    ∀ owner other shards, Move.Accepted servers ⟨owner, shards⟩ →
      Move.Accepted servers ⟨other, shards⟩ →
      (∀ hash, Shard.Covers shards hash → reached.current.Owns owner hash) →
      reached.afterMoves [⟨other, shards⟩, ⟨owner, shards⟩] = reached := by
  intro reached
  have hknown : ∀ {m : Move}, m.Accepted servers → m.Accepted reached.current.names := by
    intro m h
    refine ⟨h.1, ?_⟩
    rw [names_afterMoves, mem_names_ofServers]
    exact h.2
  -- A destination is known, so there is at least one server.
  have hpartition : ∀ {m : Move}, m.Accepted servers → reached.current.IsPartition := fun h =>
    isPartition_afterMoves (isPartition_ofServers (List.ne_nil_of_mem h.2) hfew) history
  refine ⟨?_, ?_, ?_, ?_, ?_⟩
  · intro destination shards shards' h h' hcovers
    exact ⟨startMove_eq_of_covers_iff (hpartition h) (hknown h) (hknown h') hcovers,
      startMove_eq_ok_iff.mpr (hknown h)⟩
  · intro m later h h' hdisjoint
    exact afterMoves_comm (hpartition h) (hknown h) (hknown h') hdisjoint
  · intro m later h h' hcovers
    exact afterMoves_of_covers_imp (hpartition h) (hknown h) (hknown h') hcovers
  · intro m h howns
    exact afterMoves_of_owns (hpartition h) (hknown h) howns
  · intro owner other shards h h' howns
    rw [afterMoves_of_covers_imp (hpartition h) (hknown h') (hknown h) fun _ => id]
    exact afterMoves_of_owns (hpartition h) (hknown h) howns

/-- After a refused move and one that hands the upper hashes to `"a"`: shards that overlap and are
out of order act as one, hashes at both ends of the space change hands in either order, and those
of `"a"` can be given to `"b"` and back. -/
theorem moves_act_on_hashes_overlapping :
    let servers := ["b", "a", "b"]
    let history : List Move := [⟨"c", [Shard.full]⟩, ⟨"a", [⟨10, maxHash⟩]⟩]
    let reached := (ofServers servers).afterMoves history
    servers.eraseDups.length < UInt32.size ∧
      reached.startMove ⟨"b", [⟨30, maxHash⟩, ⟨10, 20⟩, ⟨15, 29⟩]⟩ =
        reached.startMove ⟨"b", [⟨10, maxHash⟩]⟩ ∧
      reached.afterMoves [⟨"a", [⟨0, 9⟩]⟩, ⟨"b", [⟨10, maxHash⟩]⟩] =
        reached.afterMoves [⟨"b", [⟨10, maxHash⟩]⟩, ⟨"a", [⟨0, 9⟩]⟩] ∧
      reached.afterMoves [⟨"a", [⟨10, 20⟩]⟩, ⟨"b", [⟨10, maxHash⟩]⟩] =
        reached.afterMoves [⟨"b", [⟨10, maxHash⟩]⟩] ∧
      reached.afterMoves [⟨"a", [⟨10, maxHash⟩]⟩] = reached ∧
      reached.afterMoves [⟨"b", [⟨10, maxHash⟩]⟩, ⟨"a", [⟨10, maxHash⟩]⟩] = reached := by
  intro servers history reached
  have hfew : servers.eraseDups.length < UInt32.size := by decide
  have hmax : maxHash.toNat = 4294967295 := rfl
  have howns : ∀ hash, Shard.Covers [⟨10, maxHash⟩] hash → reached.current.Owns "a" hash := by
    intro hash hcovers
    have hne : servers ≠ [] := by decide
    have hpartition := isPartition_ofServers hne hfew
    have htakes : Move.Takes servers hash ⟨"a", [⟨10, maxHash⟩]⟩ := ⟨by decide, hcovers⟩
    have hlast : lastDestination? servers history hash = some "a" := by
      simp [lastDestination?, history, htakes]
    rw [← (isPartition_afterMoves hpartition history).owner?_eq_some_iff,
      owner?_afterMoves hpartition, lastDestination?_congr fun _ => mem_names_ofServers, hlast]
    rfl
  obtain ⟨hcover, hcomm, hhide, howner, hback⟩ := moves_act_on_hashes servers hfew history
  refine ⟨hfew, (hcover "b" _ _ (by decide) (by decide) fun hash => ?_).1,
    hcomm _ _ (by decide) (by decide) fun hash => ?_,
    hhide _ _ (by decide) (by decide) fun hash => ?_, howner _ (by decide) howns,
    hback "a" "b" _ (by decide) (by decide) howns⟩
  all_goals
    have hbound : hash.toNat < 4294967296 := hash.toNat_lt
    simp only [Shard.covers_cons, Shard.covers_nil, or_false, Shard.mem_iff_toNat,
      UInt32.reduceToNat, hmax]
    omega

end Controller

end Keyspace
