/-
# Assignments of shards to servers

An assignment gives every server the list of shards that it owns. Servers are kept in
ascending order of their names, which decides the owner of a hash that several of them
hold. An assignment is a snapshot: moving shards makes a new one.
-/

import Keyspace.Json.Form
import Keyspace.Shard.Cover

namespace Keyspace

/-- The shards as a record on the wire. -/
def Shard.form : Json.Form Shard :=
  (Json.Form.record "Shard"
    (.cons (.required "lower" .word) (.cons (.required "upper" .word) .nil))).via
    (fun (lower, upper, ()) => ⟨lower, upper⟩) (fun s => (s.lower, s.upper, ()))

/-- Which server owns which shards. -/
structure Assignment where
  servers : Std.ExtTreeMap String (List Shard)
deriving DecidableEq

namespace Assignment

/-- No servers. -/
def empty : Assignment := ⟨∅⟩

instance : Inhabited Assignment := ⟨empty⟩

/-- The servers with their shards, in ascending order of the names. -/
def toList (a : Assignment) : List (String × List Shard) := a.servers.toList

/-- The names of the servers, in ascending order. -/
def names (a : Assignment) : List String := a.servers.keys

/-- The shards that a server owns; none if there is no such server. -/
def shardsOf? (a : Assignment) (server : String) : Option (List Shard) := a.servers[server]?

/-- The server is one of the assignment, even if it owns nothing. -/
def hasServer (a : Assignment) (server : String) : Bool := a.servers.contains server

/-- The server owning a hash: the first by name that holds it. -/
def owner? (a : Assignment) (hash : UInt32) : Option String :=
  (a.toList.find? fun (_, shards) => decide (Shard.Covers shards hash)).map (·.1)

/-- The server owning a key. -/
def serverOf? (a : Assignment) (key : String) : Option String := a.owner? (shardHash key)

/-- The assignment once `destination` owns `moved`: every other server loses those hashes. -/
def reassign (a : Assignment) (destination : String) (moved : List Shard) : Assignment :=
  ⟨a.servers.map fun server held =>
    if server = destination then Shard.normalize (held ++ moved)
    else held.flatMap fun s => s.carve moved⟩

/-- Assignments on the wire. -/
def form : Json.Form Assignment :=
  (Json.Form.record "ShardControllerConfig"
    (.cons (.required "servers" (.map (.list Shard.form))) .nil)).via
    (fun (servers, ()) => ⟨servers⟩) (fun a => (a.servers, ()))

end Assignment

end Keyspace
