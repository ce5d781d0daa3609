/-
# Covers: lists of shards as sets of hashes

A server owns a list of shards, and what matters about the list is which hashes it
covers. Two operations keep such lists in shape. `carve` removes a list of shards
from one shard and leaves pieces in ascending order. `normalize` sorts a list and
merges every two shards that overlap or touch, so that equal sets get equal lists.
-/

import Keyspace.Shard

namespace Keyspace.Shard

/-- Some shard of the list contains the hash. -/
def Covers (shards : List Shard) (hash : UInt32) : Prop := ∃ s ∈ shards, hash ∈ s

instance (shards : List Shard) (hash : UInt32) : Decidable (Covers shards hash) :=
  inferInstanceAs (Decidable (∃ s ∈ shards, hash ∈ s))

/-- What is left of `held` once every one of `removed` is taken from it. -/
def carve (held : Shard) (removed : List Shard) : List Shard :=
  removed.foldl (fun pieces r => pieces.flatMap (·.subtract r)) [held]

/-- The hash after `hash`; the greatest hash is its own successor. -/
def nextHash (hash : UInt32) : UInt32 :=
  if hash = maxHash then maxHash else hash + 1

/-- Merges ascending shards into `last`, the shard that is still growing. A shard that starts
no later than just above `last` extends it; any other closes it. -/
def merge (last : Shard) : List Shard → List Shard
  | [] => [last]
  | s :: rest =>
    if s.lower ≤ nextHash last.upper then merge ⟨last.lower, max last.upper s.upper⟩ rest
    else last :: merge s rest

/-- The shards in ascending order, with overlapping and adjacent ones merged. -/
def normalize (shards : List Shard) : List Shard :=
  match shards.mergeSort precedes with
  | [] => []
  | first :: rest => merge first rest

/-- Nothing is lost where nothing is removed. -/
@[simp]
theorem carve_nil (held : Shard) : carve held [] = [held] := rfl

/-- No shards stay no shards. -/
@[simp]
theorem normalize_nil : normalize [] = [] := by simp [normalize]

end Keyspace.Shard
