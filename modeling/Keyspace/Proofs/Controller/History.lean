/-
# The last accepted move wins

The owner of a hash after a run of moves can be read off the run: it is the destination
of the last accepted move that has the hash in one of its shards, and without such a
move it is the owner at the start. A move is accepted if its shards are valid and its
destination is known. Any other move is refused, with the first malformed shard or else
the unknown destination as the reason, and leaves the controller as it was.
-/

import Mathlib
import Keyspace.Proofs.Controller.Partition

namespace Keyspace

/-- The move is accepted and has the hash in one of its shards. -/
def Move.Takes (known : List String) (hash : UInt32) (m : Move) : Prop :=
  m.Accepted known ∧ Shard.Covers m.shards hash

instance (known : List String) (hash : UInt32) (m : Move) : Decidable (m.Takes known hash) :=
  inferInstanceAs (Decidable (_ ∧ _))

/-- The destination of the last move of a run that takes the hash. -/
def lastDestination? (known : List String) (moves : List Move) (hash : UInt32) : Option String :=
  (moves.reverse.find? fun m => decide (m.Takes known hash)).map (·.destination)

theorem lastDestination?_concat (known : List String) (moves : List Move) (m : Move)
    (hash : UInt32) :
    lastDestination? known (moves ++ [m]) hash =
      if m.Takes known hash then some m.destination else lastDestination? known moves hash := by
  unfold lastDestination?
  rw [List.reverse_append, List.reverse_singleton, List.singleton_append, List.find?_cons]
  split_ifs with htakes <;> simp [htakes]

/-- Only who is known matters, and not in which order. -/
theorem lastDestination?_congr {first second : List String}
    (h : ∀ server, server ∈ first ↔ server ∈ second) (moves : List Move) (hash : UInt32) :
    lastDestination? first moves hash = lastDestination? second moves hash := by
  have htakes : ∀ m : Move, m.Takes first hash ↔ m.Takes second hash := by
    intro m
    unfold Move.Takes Move.Accepted
    rw [h]
  unfold lastDestination?
  simp only [htakes]

namespace Controller

variable {controller : Controller} {m : Move} {hash : UInt32}

/-- A hash that a move takes is owned by the destination, any other by its owner before. -/
theorem owner?_startMove (hpartition : controller.current.IsPartition) :
    (controller.startMove m).2.current.owner? hash =
      if m.Takes controller.current.names hash then some m.destination
      else controller.current.owner? hash := by
  by_cases haccepted : m.Accepted controller.current.names
  · have hknown := Assignment.mem_names.mp haccepted.2
    have hafter := isPartition_startMove (m := m) hpartition
    rw [startMove_of_accepted haccepted] at hafter ⊢
    split_ifs with htakes
    · rw [hafter.owner?_eq_some_iff, Assignment.owns_reassign hknown, if_pos rfl]
      exact .inr htakes.2
    · have houtside : ¬ Shard.Covers m.shards hash := fun hcovers => htakes ⟨haccepted, hcovers⟩
      obtain ⟨owner, howns, -⟩ := hpartition.owned hash
      rw [hpartition.owner?_eq_some_iff.mpr howns, hafter.owner?_eq_some_iff,
        Assignment.owns_reassign hknown]
      split_ifs
      · exact .inl howns
      · exact ⟨howns, houtside⟩
  · obtain ⟨error, hrefused⟩ := startMove_of_not_accepted haccepted
    rw [hrefused, if_neg fun htakes => haccepted htakes.1]

/-- The owner after a run is the destination of the last move that takes the hash. -/
theorem owner?_afterMoves (hpartition : controller.current.IsPartition) (moves : List Move) :
    (controller.afterMoves moves).current.owner? hash =
      (lastDestination? controller.current.names moves hash).or
        (controller.current.owner? hash) := by
  induction moves using List.reverseRecOn with
  | nil => rfl
  | append_singleton moves m ih =>
      rw [afterMoves_concat, owner?_startMove (isPartition_afterMoves hpartition moves),
        names_afterMoves, ih, lastDestination?_concat]
      split_ifs <;> rfl

/-- At any point of a run a move succeeds exactly if its shards are valid and its destination is
known; otherwise it is refused for the first malformed shard, or else for the destination, and
changes nothing. The one owner of a hash is the destination of the last accepted move that has
the hash in a shard, or the owner at the start if there is none. -/
theorem last_accepted_move_wins (servers : List String) (hne : servers ≠ [])
    (hfew : servers.eraseDups.length < UInt32.size) (moves : List Move) :
    let start := ofServers servers
    let reached := start.afterMoves moves
    (∀ m : Move, (reached.startMove m).1 = .ok () ↔
        (∀ s ∈ m.shards, s.Valid) ∧ m.destination ∈ servers) ∧
      (∀ destination before bad after, (∀ s ∈ before, s.Valid) → ¬ bad.Valid →
        reached.startMove ⟨destination, before ++ bad :: after⟩ =
          (.error (.refused (.validation ("malformed shard " ++ bad.toText))), reached)) ∧
      (∀ destination shards, (∀ s ∈ shards, s.Valid) → destination ∉ servers →
        reached.startMove ⟨destination, shards⟩ =
          (.error (.refused (.validation ("unknown destination server " ++ destination))),
            reached)) ∧
      ∀ hash, ∃ owner,
        (lastDestination? servers moves hash).or (start.current.owner? hash) = some owner ∧
          reached.current.owner? hash = some owner ∧
          ∀ server, reached.current.Owns server hash ↔ server = owner := by
  intro start reached
  have hstart : start.current.IsPartition := isPartition_ofServers hne hfew
  have hreached : reached.current.IsPartition := isPartition_afterMoves hstart moves
  have hnames : ∀ server, server ∈ reached.current.names ↔ server ∈ servers := by
    intro server
    rw [names_afterMoves, mem_names_ofServers]
  refine ⟨?_, ?_, ?_, ?_⟩
  · intro m
    rw [← hnames]
    exact startMove_eq_ok_iff
  · intro destination before bad after hbefore hbad
    exact startMove_of_malformed hbefore hbad
  · intro destination shards hvalid hunknown
    rw [← hnames] at hunknown
    exact startMove_of_unknown hvalid hunknown
  · intro hash
    obtain ⟨owner, howns, hunique⟩ := hreached.owned hash
    have howner := hreached.owner?_eq_some_iff.mpr howns
    refine ⟨owner, ?_, howner, fun server => ⟨hunique server, fun heq => heq ▸ howns⟩⟩
    rw [← howner, owner?_afterMoves hstart,
      lastDestination?_congr fun _ => mem_names_ofServers]

/-- A later move takes part of what an earlier one took; two that come after it are refused. -/
theorem last_accepted_move_wins_overlapping :
    let servers := ["b", "a", "b"]
    let moves : List Move :=
      [⟨"a", [⟨0, 7⟩, ⟨5, maxHash⟩]⟩, ⟨"b", [⟨6, 6⟩]⟩, ⟨"a", [⟨6, 6⟩, ⟨9, 3⟩]⟩, ⟨"c", [⟨6, 6⟩]⟩]
    let reached := (ofServers servers).afterMoves moves
    servers ≠ [] ∧ servers.eraseDups.length < UInt32.size ∧
      (reached.startMove ⟨"a", [⟨4, 8⟩]⟩).1 = .ok () ∧
      reached.startMove ⟨"a", [⟨4, 8⟩, ⟨6, 5⟩, ⟨9, 3⟩]⟩ =
        (.error (.refused (.validation ("malformed shard " ++ Shard.toText ⟨6, 5⟩))), reached) ∧
      reached.startMove ⟨"c", [⟨4, 8⟩]⟩ =
        (.error (.refused (.validation ("unknown destination server " ++ "c"))), reached) ∧
      lastDestination? servers moves 6 = some "b" ∧ reached.current.owner? 6 = some "b" := by
  intro servers moves reached
  obtain ⟨hok, hmalformed, hunknown, howner⟩ :=
    last_accepted_move_wins servers (by decide) (by decide) moves
  have hlast : lastDestination? servers moves 6 = some "b" := by decide
  refine ⟨by decide, by decide, (hok _).mpr (by decide),
    hmalformed "a" [⟨4, 8⟩] ⟨6, 5⟩ [⟨9, 3⟩] (by decide) (by decide),
    hunknown "c" [⟨4, 8⟩] (by decide) (by decide), hlast, ?_⟩
  obtain ⟨owner, hwins, hfound, -⟩ := howner 6
  rw [hlast] at hwins
  exact hfound.trans hwins.symm

end Controller

end Keyspace
