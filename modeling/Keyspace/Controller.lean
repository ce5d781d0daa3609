/-
# The controller

The controller holds the authoritative assignment. It starts by splitting the hash
space evenly among its servers, and from then on shards are moved: the moved hashes are
carved out of whatever held them and given to their destination. Every assignment it
has handed out stays as it was. Nobody copies the data of the keys.
-/

import Keyspace.Assignment
import Keyspace.Store.Basic

namespace Keyspace

namespace Shard

/-- The number of hashes. -/
def hashCount : UInt64 := 0x100000000

/-- Part `index` of the hash space split evenly into `count` parts. -/
def part (count index : UInt64) : Shard :=
  ⟨(hashCount * index / count).toUInt32, (hashCount * (index + 1) / count - 1).toUInt32⟩

end Shard

namespace Assignment

/-- One part of the hash space for each of the servers, in the order given. -/
def uniform (servers : List String) : Assignment :=
  ⟨Std.ExtTreeMap.ofList <| servers.zipIdx.map fun (server, index) =>
    (server, [Shard.part servers.length.toUInt64 index.toUInt64])⟩

end Assignment

/-- The holder of the authoritative assignment. -/
structure Controller where
  current : Assignment
deriving DecidableEq

namespace Controller

/-- A controller of the given servers. A repeated name counts where it stands first. -/
def ofServers (servers : List String) : Controller :=
  ⟨Assignment.uniform servers.eraseDups⟩

/-- The current assignment. -/
def query : Action Controller Assignment := do
  return (← get).current

/-- Why a move is refused, if it is. A malformed shard counts before an unknown destination. -/
def objection? (controller : Controller) (destination : String) (shards : List Shard) :
    Option KvError :=
  match shards.find? fun s => ¬ s.Valid with
  | some bad => some (.malformedShard bad)
  | none =>
    if controller.current.hasServer destination then none
    else some (.unknownDestination destination)

/-- Gives shards to a server. -/
def move (destination : String) (shards : List Shard) : Action Controller Unit := do
  let controller ← get
  match controller.objection? destination shards with
  | some error => Action.refuse error
  | none => set (⟨controller.current.reassign destination shards⟩ : Controller)

end Controller

end Keyspace
