/-
# Shards of the hash space

A key has a 32-bit shard hash, and a shard is an inclusive range of such hashes. A
shard is seen through membership: `h ∈ s` says that the hash lies between the two
bounds. Nothing keeps the bounds in order, because shards arrive from the wire; a
shard whose lower bound exceeds its upper one is *malformed* and has no members.

Subtraction leaves at most two pieces. Its additions and subtractions of one are
guarded by the comparisons in front of them, so they never wrap.
-/

import Keyspace.Digest

namespace Keyspace

/-- Where a key lies in the hash space: the upper half of its digest. -/
def shardHash (key : String) : UInt32 :=
  (digest 0 key.toUTF8 >>> 32).toUInt32

/-- The greatest hash. -/
def maxHash : UInt32 := 0xffffffff

/-- The inclusive range of shard hashes from `lower` to `upper`. -/
structure Shard where
  lower : UInt32
  upper : UInt32
deriving DecidableEq, Repr, Inhabited

namespace Shard

/-- The shard of all hashes. -/
def full : Shard := ⟨0, maxHash⟩

/-- The shard of a single hash. -/
def point (hash : UInt32) : Shard := ⟨hash, hash⟩

/-- The single-hash shard that `key` falls into. -/
def ofKey (key : String) : Shard := point (shardHash key)

instance : Membership UInt32 Shard where
  mem s hash := s.lower ≤ hash ∧ hash ≤ s.upper

/-- Membership is the comparison with both bounds. -/
theorem mem_def {hash : UInt32} {s : Shard} :
    hash ∈ s ↔ s.lower ≤ hash ∧ hash ≤ s.upper := Iff.rfl

instance (hash : UInt32) (s : Shard) : Decidable (hash ∈ s) :=
  decidable_of_iff _ mem_def.symm

/-- The bounds are in order. -/
def Valid (s : Shard) : Prop := s.lower ≤ s.upper

instance (s : Shard) : Decidable s.Valid := inferInstanceAs (Decidable (_ ≤ _))

/-- Each range starts no later than the other one ends. For valid shards this says that they
share a hash. -/
def Overlaps (s t : Shard) : Prop := s.lower ≤ t.upper ∧ t.lower ≤ s.upper

instance (s t : Shard) : Decidable (s.Overlaps t) := inferInstanceAs (Decidable (_ ∧ _))

/-- What is left of `s` without `t`: the piece below it and the piece above it. -/
def subtract (s t : Shard) : List Shard :=
  if s.Overlaps t then
    (if s.lower < t.lower then [⟨s.lower, t.lower - 1⟩] else []) ++
      (if t.upper < s.upper then [⟨t.upper + 1, s.upper⟩] else [])
  else
    [s]

/-- Shards are ordered by their lower bound, then by their upper one. -/
instance : Ord Shard where
  compare s t := (compare s.lower t.lower).then (compare s.upper t.upper)

/-- `s` does not come after `t` in the order of shards. -/
def precedes (s t : Shard) : Bool := (compare s t).isLE

end Shard

end Keyspace
