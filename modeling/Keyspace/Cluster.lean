/-
# Clusters in memory

A cluster is a controller at an address together with stores that go by their names.
It answers every request at once. A peer can be down, and an address can have a canned
reply in front of it; otherwise the controller answers at its own address, even where a
store has the same name, and the stores answer at theirs.
-/

import Keyspace.Router
import Keyspace.Service

namespace Keyspace

/-- Who answers at the address of the controller. -/
inductive Authority where
  /-- A controller that can be asked to move shards. -/
  | live (controller : Controller)
  /-- An assignment that never changes. Moves are acknowledged and forgotten. -/
  | fixed (assignment : Assignment)

namespace Authority

/-- The assignment that a query is answered with. -/
def assignment : Authority → Assignment
  | live controller => controller.current
  | fixed assignment => assignment

/-- How the authority answers the requests for a controller. -/
def serve? (request : Request) : Option (Action Authority Response) :=
  (Controller.serve? request).map fun action => Action.ofStart fun
    | live controller =>
      let (outcome, controller) := action.start controller
      (outcome, live controller)
    | fixed assignment =>
      match request with
      | .move _ _ => (.ok .move, fixed assignment)
      | _ => ((action.start ⟨assignment⟩).1, fixed assignment)

instance : Service Authority where
  role := .controller
  serve? := serve?

end Authority

/-- Replies that stand in for whoever would answer at an address. -/
structure Canned where
  address : String
  /-- The endpoint that the reply is for; none if it is for all that have no reply of their own. -/
  endpoint : Option String
  reply : KvResult Response

/-- A controller and stores, and who of them can be reached. -/
structure Cluster where
  controller : String
  authority : Authority
  stores : Std.ExtTreeMap String Engine
  down : List String
  /-- Canned replies, the latest first. -/
  canned : List Canned

namespace Cluster

/-- A cluster with one empty store for each server of the assignment, and all peers up. -/
def ofAuthority (controller : String) (authority : Authority) (store : Engine) : Cluster where
  controller := controller
  authority := authority
  stores := Std.ExtTreeMap.ofList (authority.assignment.names.map fun name => (name, store))
  down := []
  canned := []

/-- The canned reply to a request, if there is one. One for its endpoint counts before one for
all. -/
def cannedReply? (cluster : Cluster) (address endpoint : String) : Option (KvResult Response) :=
  let replyFor (endpoint : Option String) :=
    (cluster.canned.find? fun c => c.address = address ∧ c.endpoint = endpoint).map (·.reply)
  replyFor (some endpoint) <|> replyFor none

/-- Nobody serves such requests at the address. -/
def noRoute (request : Request) : KvError := .transport "mock" ("no route " ++ request.endpoint)

/-- Lets a service answer. A service that crashes never answers. -/
def exchange {σ : Type} [Service σ] (address : String) (request : Request) (service : σ) :
    KvResult Response × σ :=
  match Service.serve? request with
  | none => (.error (noRoute request), service)
  | some action =>
    match action.reported.start service with
    | (.ok response, service) => (.ok response, service)
    | (.error (.refused error), service) => (.ok (.error (.ofError error)), service)
    | (.error (.crashed fault), service) => (.error (.transport address fault.message), service)

/-- Answers a request that reached its address. -/
def deliver (address : String) (request : Request) (cluster : Cluster) :
    KvResult Response × Cluster :=
  if address = cluster.controller then
    let (reply, authority) := exchange address request cluster.authority
    (reply, { cluster with authority })
  else
    match cluster.stores[address]? with
    | none => (.error (.transport address "no such host"), cluster)
    | some store =>
      let (reply, store) := exchange address request store
      (reply, { cluster with stores := cluster.stores.insert address store })

/-- Answers a request. -/
def reply (address : String) (request : Request) (cluster : Cluster) :
    KvResult Response × Cluster :=
  if address ∈ cluster.down then (.error (.transport address "connection refused"), cluster)
  else
    match cluster.cannedReply? address request.endpoint with
    | some reply => (reply, cluster)
    | none => cluster.deliver address request

/-- Requests to the peers of the cluster. -/
def transport : Transport (StateM Cluster) where
  send address request := ExceptT.mk (reply address request)

/-- Takes a peer down. -/
def takeDown (cluster : Cluster) (address : String) : Cluster :=
  if address ∈ cluster.down then cluster else { cluster with down := address :: cluster.down }

/-- Brings a peer up again. -/
def bringUp (cluster : Cluster) (address : String) : Cluster :=
  { cluster with down := cluster.down.filter (· ≠ address) }

/-- Puts a canned reply in place. -/
def can (cluster : Cluster) (canned : Canned) : Cluster :=
  { cluster with canned := canned :: cluster.canned }

/-- What every store holds, in the order of their names. -/
def dump (cluster : Cluster) : List (String × Contents) :=
  cluster.stores.toList.map fun (name, store) => (name, KvStore.contents store)

end Cluster

end Keyspace
