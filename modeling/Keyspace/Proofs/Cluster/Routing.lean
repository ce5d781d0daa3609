/-
# Calls through a router

In a cluster that is ready, with its controller and the owners of the keys up, a router
finds the owner of a key and calls it. A call of several keys reads every batch from the
store of its server, or writes it there, and leaves the other servers as they are.
-/

import Mathlib
import Keyspace.Proofs.Cluster.Server
import Keyspace.Proofs.Router.Batch

namespace Keyspace.Cluster

open KvStore (contents)
open Router (Batch batches batchOf batchesOf)

variable {cluster : Cluster} {assignment : Assignment} {key server : String}
  {keys values : List String}

/-- A router that asks the controller at an address. -/
abbrev router (controller : String) : Router (StateM Cluster) := ⟨controller, transport⟩

/-- The controller answers with the assignment. -/
theorem Governed.start_send_query (h : cluster.Governed assignment)
    (hup : cluster.controller ∉ cluster.down) :
    (transport.send cluster.controller .query).start cluster =
      (.ok (.query assignment), cluster) := by
  have hexchange : exchange cluster.controller .query cluster.authority =
      (.ok (.query assignment), cluster.authority) := by
    rw [← h.assignment_eq]
    cases cluster.authority <;> rfl
  rw [start_send_of_up hup h.canned_eq, deliver, if_pos rfl, hexchange]

/-- A query is answered with the assignment. -/
theorem Governed.start_query (h : cluster.Governed assignment)
    (hup : cluster.controller ∉ cluster.down) :
    (router cluster.controller).query.start cluster = (.ok assignment, cluster) := by
  rw [Router.query, Router.ask,
    Call.start_bind_ok (Call.start_tryCatch_ok (h.start_send_query hup) _)]
  rfl

/-- A query to a controller that is down fails. -/
theorem start_query_of_down {controller : String} (hdown : controller ∈ cluster.down) :
    (router controller).query.start cluster =
      (.error (.controllerUnreachable (.transport controller "connection refused")), cluster) := by
  rw [Router.query, Router.ask, Call.start_bind_error
    ((Call.start_tryCatch_error (start_send_of_down hdown) _).trans rfl)]

/-- A key is looked for at its owner. -/
theorem Governed.start_clientFor (h : cluster.Governed assignment)
    (hup : cluster.controller ∉ cluster.down) (howner : assignment.serverOf? key = some server) :
    ((router cluster.controller).clientFor key).start cluster = (.ok (client server), cluster) := by
  have hfound : Router.ownerOf assignment key = .ok server := by rw [Router.ownerOf, howner]
  rw [Router.clientFor, Call.start_bind_ok (h.start_query hup), hfound,
    Call.start_bind_ok (Call.start_liftM _)]
  rfl

/-- What a client of the owner does, the router does. -/
theorem Governed.ends_clientFor {α : Type} (h : cluster.Governed assignment)
    (hup : cluster.controller ∉ cluster.down) (howner : assignment.serverOf? key = some server)
    {call : Client (StateM Cluster) → Call (StateM Cluster) α} {outcome : KvResult α}
    {items : Contents} (hends : Ends cluster server ((call (client server)).start cluster) outcome
      items) :
    Ends cluster server (Call.start ((router cluster.controller).clientFor key >>= call) cluster)
      outcome items := by
  rwa [Call.start_bind_ok (h.start_clientFor hup howner)]

/-- What is read for a key, at its owner. -/
def read (cluster : Cluster) (assignment : Assignment) (key : String) : KvResult String := do
  cluster.found (← Router.ownerOf assignment key) key

theorem read_of_owner (howner : assignment.serverOf? key = some server) :
    cluster.read assignment key = cluster.found server key := by
  rw [read, Router.ownerOf, howner]
  rfl

theorem read_of_unowned (hnone : assignment.serverOf? key = none) :
    cluster.read assignment key = .error (.unowned key) := by
  rw [read, Router.ownerOf, hnone]
  rfl

/-- A key is read at its owner, and nothing changes. -/
theorem Ready.start_get (h : cluster.Ready assignment)
    (hcontroller : cluster.controller ∉ cluster.down) (key : String) :
    ((router cluster.controller).get key).start cluster =
      (cluster.read assignment key, cluster) := by
  cases howner : assignment.serverOf? key with
  | none =>
      have hfailed : ((router cluster.controller).clientFor key).start cluster =
          (.error (.unowned key), cluster) := by
        rw [Router.clientFor, Call.start_bind_ok (h.start_query hcontroller), Router.ownerOf,
          howner]
        exact Call.start_bind_error (Call.start_liftM _) _
      rw [read_of_unowned howner, Router.get, Call.start_bind_error hfailed]
  | some server =>
      rw [read_of_owner howner, Router.get,
        Call.start_bind_ok (h.start_clientFor hcontroller howner)]
      exact h.start_get_of_client (Assignment.mem_names_of_serverOf? howner) key

/-! ## Batches -/

/-- Every batch is for a server that is up. -/
def Reachable {α : Type} (cluster : Cluster) (assignment : Assignment) (batches : List (Batch α)) :
    Prop :=
  ∀ batch ∈ batches, batch.server ∈ assignment.names ∧ batch.server ∉ cluster.down

/-- The values of a batch, each at its position, where every key is read in this way. -/
def readPart (read : String → KvResult String) (batch : Batch String) :
    KvResult (List (Nat × String)) :=
  ((batch.items.map (·.1)).mapM read).map ((batch.items.map (·.2)).zip ·)

/-- The values of keys, each at the position of the key, where every key is read in this way. -/
def gather (assignment : Assignment) (read : String → KvResult String) (keys : List String) :
    KvResult (List String) :=
  ((batchesOf assignment id keys).mapM (readPart read)).map fun parts =>
    Router.scatter keys.length parts.flatten

/-- Reading a batch at its server is reading each of its keys at the owner, and changes nothing. -/
theorem Ready.start_readBatch (h : cluster.Ready assignment) {batch : Batch String}
    (hbatch : batch ∈ batchesOf assignment id keys) :
    ((router cluster.controller).readBatch batch).start cluster =
      (readPart (cluster.read assignment) batch, cluster) := by
  obtain ⟨server, hserver, rfl, hne⟩ := Router.mem_batchesOf.mp hbatch
  have hread : ∀ key ∈ (batchOf assignment id keys server).items.map (·.1),
      cluster.found server key = cluster.read assignment key := by
    intro key hkey
    obtain ⟨entry, hentry, rfl⟩ := List.mem_map.mp hkey
    exact (read_of_owner (Router.mem_batchOf.mp hentry).2).symm
  have hkeys : (batchOf assignment id keys server).items.map (·.1) ≠ [] := by simpa using hne
  have hvalues := h.start_multiGet_of_client hserver hkeys
  rw [mapM_congr hread] at hvalues
  rw [Router.readBatch, bind_pure_comp]
  exact Call.start_map_of_start hvalues _

/-- Writing batch by batch writes every batch to the store of its server and leaves the others as
they are. -/
theorem Ready.start_forM_multiPut (h : cluster.Ready assignment) (controller : String)
    {batches : List (Batch (String × String))} (hreachable : cluster.Reachable assignment batches)
    (hnodup : (batches.map (·.server)).Nodup) :
    ∃ after : Cluster,
      Call.start (batches.forM (router controller).writeBatch) cluster = (.ok (), after) ∧
      Leaves assignment cluster after ∧
      (∀ batch ∈ batches, after.held batch.server =
        (cluster.held batch.server).insertMany (batch.items.map (·.1))) ∧
      ∀ server ∉ batches.map (·.server), after.stores[server]? = cluster.stores[server]? := by
  induction batches generalizing cluster with
  | nil => exact ⟨cluster, rfl, h.leaves_self, by simp, fun _ _ => rfl⟩
  | cons batch batches ih =>
      rw [Reachable, List.forall_mem_cons] at hreachable
      obtain ⟨⟨hserver, hup⟩, hrest⟩ := hreachable
      rw [List.map_cons, List.nodup_cons] at hnodup
      have hlength : (batch.items.map (·.1.1)).length = (batch.items.map (·.1.2)).length := by
        rw [List.length_map, List.length_map]
      obtain ⟨engine, hsound, hcontents, hstart⟩ :=
        (h.serves hserver hup).ends_multiPut hlength
      rw [List.zip_map'] at hcontents
      have hleaves : Leaves assignment cluster (cluster.withStore batch.server engine) :=
        h.leaves_withStore hsound
      obtain ⟨after, hafter, hleaves', hwritten, hothers⟩ := ih hleaves.ready hrest hnodup.2
      refine ⟨after, (Call.start_bind_ok hstart _).trans hafter, hleaves.trans hleaves', ?_, ?_⟩
      · rw [List.forall_mem_cons]
        constructor
        · rw [held_congr (hothers _ hnodup.1), held_withStore, if_pos rfl, hcontents]
        · intro later hlater
          have hne : later.server ≠ batch.server := fun heq =>
            hnodup.1 (heq ▸ List.mem_map_of_mem hlater)
          rw [hwritten later hlater, held_withStore, if_neg hne]
      · intro server hserver
        rw [List.map_cons, List.mem_cons, not_or] at hserver
        rw [hothers server hserver.2, getElem?_stores_withStore, if_neg hserver.1]

/-! ## Calls of several keys -/

/-- If the owners of all items are up, so are the servers of their batches. -/
theorem reachable_batchesOf {α : Type} (name : α → String) {items : List α}
    (hup : ∀ item ∈ items, ∀ server, assignment.serverOf? (name item) = some server →
      server ∉ cluster.down) :
    cluster.Reachable assignment (batchesOf assignment name items) := by
  intro batch hbatch
  obtain ⟨server, hserver, rfl, hne⟩ := Router.mem_batchesOf.mp hbatch
  obtain ⟨⟨item, position⟩, hitem⟩ := List.exists_mem_of_ne_nil _ hne
  obtain ⟨hposition, howner⟩ := Router.mem_batchOf.mp hitem
  exact ⟨hserver, hup item (List.mem_of_getElem? hposition) server howner⟩

/-- The values of several keys are read from their owners and put where the keys stand, and nothing
changes. -/
theorem Ready.start_multiGet (h : cluster.Ready assignment)
    (hcontroller : cluster.controller ∉ cluster.down)
    (howned : ∀ key ∈ keys, (assignment.serverOf? key).isSome) :
    ((router cluster.controller).multiGet keys).start cluster =
      (gather assignment (cluster.read assignment) keys, cluster) := by
  have hbatches : batches assignment id keys = .ok (batchesOf assignment id keys) :=
    Router.batches_eq howned
  rw [Router.multiGet, Call.start_bind_ok (h.start_query hcontroller), hbatches,
    Call.start_bind_ok (Call.start_liftM _), bind_pure_comp]
  exact Call.start_map_of_start (Call.start_mapM fun _ hbatch => h.start_readBatch hbatch) _

/-- Pairs are written batch by batch, to the owners of their keys. -/
theorem Governed.start_multiPut_eq_forM (h : cluster.Governed assignment)
    (hcontroller : cluster.controller ∉ cluster.down) (hlength : keys.length = values.length)
    (howned : ∀ key ∈ keys, (assignment.serverOf? key).isSome) :
    ((router cluster.controller).multiPut keys values).start cluster =
      Call.start ((batchesOf assignment (·.1) (keys.zip values)).forM
        (router cluster.controller).writeBatch) cluster := by
  have hbatches : batches assignment (·.1) (keys.zip values) =
      .ok (batchesOf assignment (·.1) (keys.zip values)) :=
    Router.batches_eq fun pair hpair => howned pair.1 (List.of_mem_zip hpair).1
  rw [Router.multiPut, if_pos hlength, Call.start_bind_ok (h.start_query hcontroller), hbatches,
    Call.start_bind_ok (Call.start_liftM _)]

/-- Several pairs are written to the owners of their keys. -/
theorem Ready.start_multiPut (h : cluster.Ready assignment)
    (hcontroller : cluster.controller ∉ cluster.down) (hlength : keys.length = values.length)
    (howned : ∀ key ∈ keys, (assignment.serverOf? key).isSome)
    (hup : ∀ key ∈ keys, ∀ server, assignment.serverOf? key = some server →
      server ∉ cluster.down) :
    ∃ after : Cluster, ((router cluster.controller).multiPut keys values).start cluster =
        (.ok (), after) ∧
      Leaves assignment cluster after ∧
      ∀ server ∈ assignment.names, after.held server = (cluster.held server).insertMany
        ((keys.zip values).filter fun pair => assignment.serverOf? pair.1 = some server) := by
  have hreachable :
      cluster.Reachable assignment (batchesOf assignment (·.1) (keys.zip values)) := by
    apply reachable_batchesOf _
    intro pair hpair
    exact hup pair.1 (List.of_mem_zip hpair).1
  obtain ⟨after, hafter, hleaves, hwritten, hothers⟩ :=
    h.start_forM_multiPut cluster.controller hreachable Router.nodup_servers_batchesOf
  refine ⟨after, (h.start_multiPut_eq_forM hcontroller hlength howned).trans hafter, hleaves, ?_⟩
  intro server hserver
  rw [← Router.map_fst_batchOf]
  by_cases hempty : (batchOf assignment (·.1) (keys.zip values) server).items = []
  · -- There is no batch for a server that owns none of the pairs.
    rw [hempty, List.map_nil, Std.ExtTreeMap.insertMany_nil]
    apply held_congr (hothers server _)
    intro hmem
    obtain ⟨batch, hbatch, hname⟩ := List.mem_map.mp hmem
    obtain ⟨owner, -, rfl, hne⟩ := Router.mem_batchesOf.mp hbatch
    obtain rfl : owner = server := hname
    exact hne hempty
  · exact hwritten _ (Router.mem_batchesOf.mpr ⟨server, hserver, rfl, hempty⟩)

end Keyspace.Cluster
