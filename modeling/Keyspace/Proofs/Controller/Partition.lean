/-
# Moves keep the hash space partitioned

A controller of at least one server, and of fewer than there are hashes, starts from a
partition of the hash space. A move is either refused, and then nothing changes, or it
gives valid shards to a server that the controller knows, which leaves a partition of
the same servers. So the hash space is partitioned after every run of moves, whatever
was asked for.
-/

import Mathlib
import Keyspace.Proofs.Assignment.Uniform

namespace Keyspace

/-- A call that asks for shards to be given to a server. -/
structure Move where
  destination : String
  shards : List Shard
deriving DecidableEq, Repr

/-- What a controller accepts: valid shards for one of the servers it knows. -/
def Move.Accepted (known : List String) (m : Move) : Prop :=
  (∀ s ∈ m.shards, s.Valid) ∧ m.destination ∈ known

instance (known : List String) (m : Move) : Decidable (m.Accepted known) :=
  inferInstanceAs (Decidable (_ ∧ _))

namespace Controller

variable {controller : Controller} {m : Move}

/-- The outcome of a move, and the controller that it leaves behind. -/
def startMove (controller : Controller) (m : Move) : Except Failure Unit × Controller :=
  (move m.destination m.shards).start controller

/-- The controller after a run of moves. -/
def afterMoves (controller : Controller) (moves : List Move) : Controller :=
  moves.foldl (fun controller m => (controller.startMove m).2) controller

/-! ## One move -/

/-- A move does what the objection against it says. -/
theorem startMove_eq :
    controller.startMove m = match controller.objection? m.destination m.shards with
      | some error => (.error (.refused error), controller)
      | none => (.ok (), ⟨controller.current.reassign m.destination m.shards⟩) := by
  show (match controller.objection? m.destination m.shards with
    | some error => Action.refuse error
    | none => set (⟨controller.current.reassign m.destination m.shards⟩ : Controller) :
      Action Controller Unit).start controller = _
  cases controller.objection? m.destination m.shards <;> rfl

/-- The first malformed shard is objected to. -/
theorem objection?_of_malformed {destination : String} {before after : List Shard} {bad : Shard}
    (hbefore : ∀ s ∈ before, s.Valid) (hbad : ¬ bad.Valid) :
    controller.objection? destination (before ++ bad :: after) = some (.malformedShard bad) := by
  have hfind : (before ++ bad :: after).find? (fun s => ¬ s.Valid) = some bad := by
    rw [List.find?_eq_some_iff_append]
    refine ⟨by simpa using hbad, before, after, rfl, ?_⟩
    intro s hs
    simpa using hbefore s hs
  rw [objection?, hfind]

/-- Valid shards are objected to exactly if the destination is unknown. -/
theorem objection?_of_valid {destination : String} {shards : List Shard}
    (hvalid : ∀ s ∈ shards, s.Valid) :
    controller.objection? destination shards =
      if controller.current.hasServer destination then none
      else some (.unknownDestination destination) := by
  have hfind : shards.find? (fun s => ¬ s.Valid) = none := by
    rw [List.find?_eq_none]
    intro s hs
    simpa using hvalid s hs
  rw [objection?, hfind]

/-- An accepted move reassigns the shards. -/
theorem startMove_of_accepted (h : m.Accepted controller.current.names) :
    controller.startMove m =
      (.ok (), ⟨controller.current.reassign m.destination m.shards⟩) := by
  rw [startMove_eq, objection?_of_valid h.1, if_pos (Assignment.mem_names.mp h.2)]

/-- A move is refused for its first malformed shard, and changes nothing. -/
theorem startMove_of_malformed {destination : String} {before after : List Shard} {bad : Shard}
    (hbefore : ∀ s ∈ before, s.Valid) (hbad : ¬ bad.Valid) :
    controller.startMove ⟨destination, before ++ bad :: after⟩ =
      (.error (.refused (.malformedShard bad)), controller) := by
  rw [startMove_eq, objection?_of_malformed hbefore hbad]

/-- A move of valid shards is refused for an unknown destination, and changes nothing. -/
theorem startMove_of_unknown {destination : String} {shards : List Shard}
    (hvalid : ∀ s ∈ shards, s.Valid) (hunknown : destination ∉ controller.current.names) :
    controller.startMove ⟨destination, shards⟩ =
      (.error (.refused (.unknownDestination destination)), controller) := by
  have hnot : ¬ controller.current.hasServer destination := fun hknown =>
    hunknown (Assignment.mem_names.mpr hknown)
  rw [startMove_eq, objection?_of_valid hvalid, if_neg hnot]

/-- Of the malformed shards of a list one is the first. -/
theorem exists_first_malformed {shards : List Shard} (h : ¬ ∀ s ∈ shards, s.Valid) :
    ∃ before bad after, shards = before ++ bad :: after ∧ (∀ s ∈ before, s.Valid) ∧
      ¬ bad.Valid := by
  obtain ⟨bad, hfind⟩ : ∃ bad, shards.find? (fun s => ¬ s.Valid) = some bad := by
    rw [← Option.isSome_iff_exists, List.find?_isSome]
    simpa using h
  obtain ⟨hbad, before, after, hsplit, hbefore⟩ := List.find?_eq_some_iff_append.mp hfind
  exact ⟨before, bad, after, hsplit, by simpa using hbefore, by simpa using hbad⟩

/-- A move that is not accepted is refused, for one reason or the other. -/
theorem startMove_of_not_accepted (h : ¬ m.Accepted controller.current.names) :
    ∃ error, controller.startMove m = (.error (.refused error), controller) := by
  obtain ⟨destination, shards⟩ := m
  by_cases hvalid : ∀ s ∈ shards, s.Valid
  · exact ⟨_, startMove_of_unknown hvalid fun hknown => h ⟨hvalid, hknown⟩⟩
  · obtain ⟨before, bad, after, rfl, hbefore, hbad⟩ := exists_first_malformed hvalid
    exact ⟨_, startMove_of_malformed hbefore hbad⟩

/-- A move succeeds exactly if it is accepted. -/
theorem startMove_eq_ok_iff :
    (controller.startMove m).1 = .ok () ↔ m.Accepted controller.current.names := by
  constructor
  · intro hok
    by_contra hnot
    obtain ⟨error, hrefused⟩ := startMove_of_not_accepted hnot
    rw [hrefused] at hok
    cases hok
  · intro haccepted
    rw [startMove_of_accepted haccepted]

/-- A move keeps the servers. -/
theorem names_startMove : (controller.startMove m).2.current.names = controller.current.names := by
  by_cases h : m.Accepted controller.current.names
  · rw [startMove_of_accepted h]
    exact Assignment.names_reassign
  · obtain ⟨error, hrefused⟩ := startMove_of_not_accepted h
    rw [hrefused]

/-- A move keeps the hash space partitioned. -/
theorem isPartition_startMove (hpartition : controller.current.IsPartition) :
    (controller.startMove m).2.current.IsPartition := by
  by_cases h : m.Accepted controller.current.names
  · rw [startMove_of_accepted h]
    exact hpartition.reassign (Assignment.mem_names.mp h.2) h.1
  · obtain ⟨error, hrefused⟩ := startMove_of_not_accepted h
    rwa [hrefused]

/-! ## Runs of moves -/

theorem afterMoves_concat (moves : List Move) :
    controller.afterMoves (moves ++ [m]) = ((controller.afterMoves moves).startMove m).2 := by
  rw [afterMoves, List.foldl_append]
  rfl

theorem names_afterMoves (moves : List Move) :
    (controller.afterMoves moves).current.names = controller.current.names := by
  induction moves using List.reverseRecOn with
  | nil => rfl
  | append_singleton moves m ih => rw [afterMoves_concat, names_startMove, ih]

theorem isPartition_afterMoves (hpartition : controller.current.IsPartition) (moves : List Move) :
    (controller.afterMoves moves).current.IsPartition := by
  induction moves using List.reverseRecOn with
  | nil => exact hpartition
  | append_singleton moves m ih =>
      rw [afterMoves_concat]
      exact isPartition_startMove ih

/-! ## Controllers of given servers -/

variable {servers : List String}

/-- The names of a controller are the distinct ones among those it was made for. -/
theorem perm_names_ofServers : (ofServers servers).current.names.Perm servers.eraseDups := by
  have hnodup := nodup_eraseDups servers
  have hnames : (ofServers servers).current.names.Nodup := Std.ExtTreeMap.nodup_keys
  rw [List.perm_ext_iff_of_nodup hnames hnodup]
  intro server
  exact Assignment.mem_names_uniform hnodup

theorem mem_names_ofServers {server : String} :
    server ∈ (ofServers servers).current.names ↔ server ∈ servers := by
  rw [perm_names_ofServers.mem_iff, List.mem_eraseDups]

/-- A controller of at least one server starts from a partition. -/
theorem isPartition_ofServers (hne : servers ≠ [])
    (hfew : servers.eraseDups.length < UInt32.size) :
    (ofServers servers).current.IsPartition := by
  refine Assignment.isPartition_uniform (nodup_eraseDups servers) ?_ hfew
  obtain ⟨server, hserver⟩ := List.exists_mem_of_ne_nil servers hne
  exact List.ne_nil_of_mem (List.mem_eraseDups.mpr hserver)

/-- After every run of moves the servers are the ones the controller was made for, every hash
lies in exactly one stored shard, and every key has the server of that shard, and no other, as
its owner. -/
theorem afterMoves_partitions (servers : List String) (hne : servers ≠ [])
    (hfew : servers.eraseDups.length < UInt32.size) (moves : List Move) :
    let reached := ((ofServers servers).afterMoves moves).current
    reached.names.Perm servers.eraseDups ∧
      (∀ hash, ∃ server s, reached.holders hash = [(server, s)]) ∧
      ∀ key, ∃ server, reached.serverOf? key = some server ∧
        ∀ other, reached.Owns other (shardHash key) ↔ other = server := by
  intro reached
  have hpartition : reached.IsPartition :=
    isPartition_afterMoves (isPartition_ofServers hne hfew) moves
  refine ⟨?_, hpartition.exists_holders_eq, ?_⟩
  · rw [names_afterMoves]
    exact perm_names_ofServers
  · intro key
    obtain ⟨server, howns, hunique⟩ := hpartition.owned (shardHash key)
    refine ⟨server, hpartition.owner?_eq_some_iff.mpr howns, ?_⟩
    intro other
    exact ⟨hunique other, fun heq => heq ▸ howns⟩

/-- A run with a repeated name, overlapping shards, a malformed shard and an unknown server. -/
theorem afterMoves_partitions_overlapping :
    let servers := ["b", "a", "b"]
    let moves : List Move :=
      [⟨"a", [⟨0, 7⟩, ⟨5, maxHash⟩]⟩, ⟨"b", [⟨9, 3⟩]⟩, ⟨"c", [Shard.full]⟩, ⟨"b", [⟨6, 6⟩]⟩]
    let reached := ((ofServers servers).afterMoves moves).current
    servers ≠ [] ∧ servers.eraseDups.length < UInt32.size ∧
      reached.names.Perm servers.eraseDups ∧
      (∀ hash, ∃ server s, reached.holders hash = [(server, s)]) ∧
      ∀ key, ∃ server, reached.serverOf? key = some server ∧
        ∀ other, reached.Owns other (shardHash key) ↔ other = server :=
  ⟨by decide, by decide, afterMoves_partitions _ (by decide) (by decide) _⟩

end Controller

end Keyspace
