/-
# Who owns a hash

A server owns the hashes that its shards cover. An assignment is a *partition* if the
shards of every server are canonical and every hash has exactly one owner; then every
hash lies in exactly one stored shard, and looking an owner up finds the only one there
is. Giving valid shards to a server of a partition leaves a partition: the destination
gains the hashes that they cover, and everybody else loses them.
-/

import Mathlib
import Keyspace.Assignment
import Keyspace.Proofs.Shard.Normalization

namespace Keyspace.Assignment

variable {a : Assignment} {server destination : String} {shards moved : List Shard}
  {hash : UInt32}

/-- One of the shards of the server contains the hash. -/
def Owns (a : Assignment) (server : String) (hash : UInt32) : Prop :=
  ∃ shards, a.shardsOf? server = some shards ∧ Shard.Covers shards hash

/-- Every stored shard that contains the hash, with the server that it is stored for. -/
def holders (a : Assignment) (hash : UInt32) : List (String × Shard) :=
  a.toList.flatMap fun entry =>
    (entry.2.filter fun s => decide (hash ∈ s)).map fun s => (entry.1, s)

/-- Every server has a canonical list of shards, and every hash has exactly one owner. -/
structure IsPartition (a : Assignment) : Prop where
  canonical : ∀ server shards, a.shardsOf? server = some shards → Shard.Canonical shards
  owned : ∀ hash, ∃! server, a.Owns server hash

theorem mem_toList : (server, shards) ∈ a.toList ↔ a.shardsOf? server = some shards :=
  Std.ExtTreeMap.mem_toList_iff_getElem?_eq_some

theorem mem_names : server ∈ a.names ↔ a.hasServer server := by
  rw [names, Std.ExtTreeMap.mem_keys, hasServer, Std.ExtTreeMap.contains_iff_mem]

theorem hasServer_iff : a.hasServer server ↔ ∃ shards, a.shardsOf? server = some shards := by
  rw [hasServer, shardsOf?, ← Option.isSome_iff_exists, Std.ExtTreeMap.isSome_getElem?_eq_contains]

/-! ## Looking an owner up -/

/-- Whoever is found owns the hash. -/
theorem owns_of_owner? (h : a.owner? hash = some server) : a.Owns server hash := by
  rw [owner?, Option.map_eq_some_iff] at h
  obtain ⟨⟨name, shards⟩, hfind, rfl⟩ := h
  have hcovers := List.find?_some hfind
  exact ⟨shards, mem_toList.mp (List.mem_of_find?_eq_some hfind), of_decide_eq_true hcovers⟩

/-- If anybody owns the hash, somebody is found. -/
theorem Owns.exists_owner? (h : a.Owns server hash) : ∃ owner, a.owner? hash = some owner := by
  obtain ⟨shards, hshards, hcovers⟩ := h
  rw [← Option.isSome_iff_exists, owner?, Option.isSome_map, List.find?_isSome]
  exact ⟨(server, shards), mem_toList.mpr hshards, decide_eq_true hcovers⟩

/-- In a partition the owner that is found is the only one there is. -/
theorem IsPartition.owner?_eq_some_iff (h : a.IsPartition) :
    a.owner? hash = some server ↔ a.Owns server hash := by
  constructor
  · exact owns_of_owner?
  · intro howns
    obtain ⟨owner, howner⟩ := howns.exists_owner?
    rw [howner, (h.owned hash).unique (owns_of_owner? howner) howns]

/-- In a partition every hash lies in exactly one stored shard. -/
theorem IsPartition.exists_holders_eq (h : a.IsPartition) (hash : UInt32) :
    ∃ server s, a.holders hash = [(server, s)] := by
  obtain ⟨server, ⟨shards, hshards, hcovers⟩, hunique⟩ := h.owned hash
  obtain ⟨s, hfilter⟩ := (h.canonical server shards hshards).filter_eq_singleton hcovers
  obtain ⟨before, after, hsplit⟩ := List.append_of_mem (mem_toList.mpr hshards)
  have hdistinct : a.toList.Pairwise fun first second => ¬ compare first.1 second.1 = .eq :=
    Std.ExtTreeMap.distinct_keys_toList
  rw [hsplit, List.pairwise_append, List.pairwise_cons] at hdistinct
  obtain ⟨-, ⟨hafter, -⟩, hbefore⟩ := hdistinct
  -- Every other server holds no shard with the hash.
  have hothers : ∀ entries : List (String × List Shard),
      (∀ entry ∈ entries, entry ∈ a.toList ∧ entry.1 ≠ server) →
      entries.flatMap (fun entry =>
        (entry.2.filter fun s => decide (hash ∈ s)).map fun s => (entry.1, s)) = [] := by
    intro entries hentries
    rw [List.flatMap_eq_nil_iff]
    rintro ⟨other, held⟩ hentry
    obtain ⟨hmem, hne⟩ := hentries _ hentry
    rw [List.map_eq_nil_iff, List.filter_eq_nil_iff]
    intro s hs hhash
    exact hne (hunique other ⟨held, mem_toList.mp hmem, s, hs, of_decide_eq_true hhash⟩)
  refine ⟨server, s, ?_⟩
  rw [holders, hsplit, List.flatMap_append, List.flatMap_cons, hfilter, hothers before,
    hothers after]
  · rfl
  · intro entry hentry
    refine ⟨by simp [hsplit, hentry], fun heq => ?_⟩
    exact hafter entry hentry (Std.LawfulEqCmp.compare_eq_iff_eq.mpr heq.symm)
  · intro entry hentry
    refine ⟨by simp [hsplit, hentry], fun heq => ?_⟩
    exact hbefore entry hentry (server, shards) (by simp)
      (Std.LawfulEqCmp.compare_eq_iff_eq.mpr heq)

/-! ## Moving shards -/

theorem shardsOf?_reassign :
    (a.reassign destination moved).shardsOf? server = (a.shardsOf? server).map fun held =>
      if server = destination then Shard.normalize (held ++ moved)
      else held.flatMap fun s => s.carve moved := by
  rw [shardsOf?, reassign, Std.ExtTreeMap.getElem?_map, shardsOf?]

@[simp]
theorem names_reassign : (a.reassign destination moved).names = a.names :=
  Std.ExtTreeMap.keys_map

/-- The destination gains what is moved, and everybody else loses it. -/
theorem owns_reassign (hknown : a.hasServer destination) :
    (a.reassign destination moved).Owns server hash ↔
      if server = destination then a.Owns server hash ∨ Shard.Covers moved hash
      else a.Owns server hash ∧ ¬ Shard.Covers moved hash := by
  unfold Owns
  rw [shardsOf?_reassign]
  by_cases hdest : server = destination
  · subst hdest
    obtain ⟨held, hheld⟩ := hasServer_iff.mp hknown
    simp [hheld, Shard.covers_normalize]
  · simp [hdest, Shard.covers_flatMap_carve, ← and_assoc]

/-- Giving valid shards to a server of a partition leaves a partition. -/
theorem IsPartition.reassign (h : a.IsPartition) (hknown : a.hasServer destination)
    (hvalid : ∀ s ∈ moved, s.Valid) : (a.reassign destination moved).IsPartition where
  canonical := by
    intro server shards hshards
    rw [shardsOf?_reassign, Option.map_eq_some_iff] at hshards
    obtain ⟨held, hheld, rfl⟩ := hshards
    have hcanonical := h.canonical server held hheld
    split_ifs with hdest
    · apply Shard.canonical_normalize
      intro s hs
      rcases List.mem_append.mp hs with hs | hs
      · exact hcanonical.valid s hs
      · exact hvalid s hs
    · exact hcanonical.flatMap_carve hvalid
  owned := by
    intro hash
    obtain ⟨owner, howner, hunique⟩ := h.owned hash
    by_cases hmoved : Shard.Covers moved hash
    · refine ⟨destination, ?_, ?_⟩
      · show Owns _ _ _
        rw [owns_reassign hknown, if_pos rfl]
        exact .inr hmoved
      · intro server howns
        by_contra hne
        rw [owns_reassign hknown, if_neg hne] at howns
        exact howns.2 hmoved
    · have hsame : ∀ server, (a.reassign destination moved).Owns server hash ↔
          a.Owns server hash := by
        intro server
        rw [owns_reassign hknown]
        split_ifs
        · exact or_iff_left hmoved
        · exact and_iff_left hmoved
      refine ⟨owner, (hsame owner).mpr howner, ?_⟩
      intro server howns
      exact hunique server ((hsame server).mp howns)

end Keyspace.Assignment
