/-
# Keys stay with their owners

As long as the assignment stays what it is, a key is stored at its owner and nowhere
else. A router writes to the owner of a key or not at all, so this survives every call,
whether it succeeds, fails or breaks off halfway, and peers that go down and come back
in any order. Nobody has to be up, keys may go without an owner, and the shards of
several servers may overlap.
-/

import Mathlib
import Keyspace.Proofs.Cluster.OneStore
import Keyspace.Proofs.Router.Discipline
import Keyspace.Proofs.Store.Operation

namespace Keyspace

open KvStore (contents)

/-- The keys that a request gives values to. -/
def Request.written (request : Request) : List String :=
  request.operation?.elim [] Operation.written

theorem Router.ownerOf_eq_ok_iff {assignment : Assignment} {key server : String} :
    Router.ownerOf assignment key = .ok server ↔ assignment.serverOf? key = some server := by
  cases h : assignment.serverOf? key <;> simp [ownerOf, h]

/-- Batches are made only where all keys have owners. -/
theorem Router.batchesOf_of_batches {α : Type} {assignment : Assignment} {key : α → String}
    {items : List α} {batches : List (Batch α)}
    (h : Router.batches assignment key items = .ok batches) :
    batchesOf assignment key items = batches := by
  by_cases howned : ∀ name ∈ items.map key, (assignment.serverOf? name).isSome
  · rw [batches_eq fun item hitem => howned _ (List.mem_map_of_mem hitem)] at h
    exact Except.ok.inj h
  · obtain ⟨before, name, after, hkeys, hbefore, hname⟩ := KeyedCall.exists_first_unowned howned
    cases h.symm.trans (batches_eq_error hkeys hbefore hname)

/-- A call that is one exchange keeps what sending its request keeps. -/
theorem Client.Exchanges.keeps {σ α : Type} {client : Client (StateM σ)} {request : Request}
    {call : Call (StateM σ) α} {take : Response → α} {inv : σ → Prop}
    (h : client.Exchanges call request take)
    (hsend : (client.transport.send client.server request).Keeps inv fun _ => True) :
    call.Keeps inv fun _ => True := by
  intro s hs
  rw [h.start_eq rfl]
  exact ⟨(hsend s hs).1, fun _ _ => trivial⟩

namespace Cluster

variable {cluster : Cluster} {controller : String} {assignment : Assignment}
  {server key : String} {engine : Engine} {request : Request}

/-! ## What a store is given -/

/-- Whatever is asked of a sound store, it stays sound, and holds no keys but those that it held and
those that the request gives values to. -/
theorem exchange_keeps (address : String) (request : Request) (hsound : engine.Sound) :
    (exchange address request engine).2.Sound ∧
      ∀ key ∈ contents (exchange address request engine).2,
        key ∈ contents engine ∨ key ∈ request.written := by
  cases hoperation : request.operation? with
  | none =>
      -- Requests for the controller are not served.
      cases request with
      | query | move destination shards => exact ⟨hsound, fun _ => .inl⟩
      | _ => cases hoperation
  | some operation =>
      obtain ⟨result, hends, -⟩ := Engine.lawful.ends_perform hsound operation
      obtain ⟨action, reply, hserve, hstart, -⟩ :=
        exists_start_serveStorage? hoperation hends.start_eq
      rw [exchange_eq hserve hstart, hends.contents_eq, Request.written, hoperation]
      exact ⟨hends.sound, fun _ => Operation.mem_or_mem_written⟩

/-! ## Calls -/

/-- The controller, at its address, answers with the assignment, and every key that is stored is
stored at its owner. Who is up is left open, and so is who has a store. -/
structure Placed (controller : String) (assignment : Assignment) (cluster : Cluster) : Prop
    extends Governed cluster assignment where
  controller_eq : cluster.controller = controller
  sound : ∀ (server : String) (engine : Engine),
    cluster.stores[server]? = some engine → engine.Sound
  placed : ∀ server, ∀ key ∈ cluster.held server, assignment.serverOf? key = some server

/-- A request that writes only keys of the server keeps the keys with their owners. -/
theorem Placed.keeps_send (hserver : server ∈ assignment.names)
    (hwritten : ∀ key ∈ request.written, assignment.serverOf? key = some server) :
    (transport.send server request).Keeps (Placed controller assignment) fun _ => True := by
  intro cluster h
  refine ⟨?_, fun _ _ => trivial⟩
  by_cases hdown : server ∈ cluster.down
  · rwa [start_send_of_down hdown]
  · have hne : server ≠ cluster.controller := fun heq => h.apart (heq ▸ hserver)
    rw [start_send_of_up hdown h.canned_eq, deliver, if_neg hne]
    cases hengine : cluster.stores[server]? with
    | none => exact h
    | some engine =>
        obtain ⟨hsound, hkeys⟩ :=
          exchange_keeps server request (h.sound server engine hengine)
        show Placed _ _ (cluster.withStore server (exchange server request engine).2)
        refine ⟨⟨h.assignment_eq, h.apart, h.canned_eq⟩, h.controller_eq, ?_, ?_⟩
        · intro other found hfound
          rw [getElem?_stores_withStore] at hfound
          split_ifs at hfound
          · exact Option.some.inj hfound ▸ hsound
          · exact h.sound other found hfound
        · intro other key hkey
          rw [held_withStore] at hkey
          split_ifs at hkey with hother
          · subst hother
            rcases hkeys key hkey with hmem | hmem
            · exact h.placed other key (held_eq hengine ▸ hmem)
            · exact hwritten key hmem
          · exact h.placed other key hkey

/-- A query brings the assignment or fails. -/
theorem Placed.keeps_query :
    (router controller).query.Keeps (Placed controller assignment) (· = assignment) := by
  intro cluster h
  obtain rfl := h.controller_eq
  by_cases hdown : cluster.controller ∈ cluster.down
  · rw [start_query_of_down hdown]
    exact ⟨h, nofun⟩
  · rw [h.start_query hdown]
    exact ⟨h, fun _ hvalue => (Except.ok.inj hvalue).symm⟩

/-- A call about one key goes to the owner of the key or to nobody. -/
theorem Placed.keeps_ask {call : KeyedCall} (hwritten : ∀ name ∈ call.request.written, name = key) :
    Call.Keeps (Placed controller assignment)
      (liftM (Router.ownerOf assignment key) >>= fun server =>
        call.ask ((router controller).client server)) fun _ => True := by
  refine (Call.Keeps.liftM _).bind fun server howner => ?_
  have hserver := Router.ownerOf_eq_ok_iff.mp howner
  refine (Client.exchanges_ask _ call).keeps (Placed.keeps_send ?_ ?_)
  · exact Assignment.mem_names_of_serverOf? hserver
  · intro name hname
    rwa [hwritten name hname]

/-- What a router does for a call, once it has the assignment, keeps the keys with their owners. -/
theorem Placed.keeps_follow (call : KeyedCall) :
    (call.follow (router controller) assignment).Keeps (Placed controller assignment)
      fun _ => True := by
  cases call with
  | get key => exact Placed.keeps_ask fun _ hname => absurd hname List.not_mem_nil
  | put key value => exact Placed.keeps_ask fun _ => List.mem_singleton.mp
  | append key value => exact Placed.keeps_ask fun _ => List.mem_singleton.mp
  | delete key => exact Placed.keeps_ask fun _ hname => absurd hname List.not_mem_nil
  | multiGet keys =>
      refine (Call.Keeps.liftM _).bind fun batches hbatches => ?_
      refine Call.Keeps.bind (Call.Keeps.mapM ?_) fun _ _ => .pure trivial
      intro batch hbatch
      rw [← Router.batchesOf_of_batches hbatches] at hbatch
      obtain ⟨server, hserver, rfl, -⟩ := Router.mem_batchesOf.mp hbatch
      exact (Router.exchanges_readBatch _ _).keeps
        (Placed.keeps_send hserver fun _ hname => absurd hname List.not_mem_nil)
  | multiPut keys values =>
      refine (Call.Keeps.liftM _).bind fun batches hbatches => ?_
      refine Call.Keeps.bind (Call.Keeps.forM ?_) fun _ _ => .pure trivial
      intro batch hbatch
      rw [← Router.batchesOf_of_batches hbatches] at hbatch
      obtain ⟨server, hserver, rfl, -⟩ := Router.mem_batchesOf.mp hbatch
      refine (Router.exchanges_writeBatch _ _).keeps (Placed.keeps_send hserver ?_)
      intro key hkey
      obtain ⟨⟨pair, position⟩, hpair, rfl⟩ := List.mem_map.mp hkey
      exact (Router.mem_batchOf.mp hpair).2

/-- Every call of a router keeps the keys with their owners. -/
theorem Placed.keeps_route (call : KeyedCall) :
    (call.route (router controller)).Keeps (Placed controller assignment) fun _ => True := by
  by_cases hmatched : call.Matched
  · rw [KeyedCall.route_eq_bind _ hmatched]
    exact Placed.keeps_query.bind fun _ hassignment => hassignment ▸ Placed.keeps_follow call
  · cases call with
    | multiPut keys values =>
        intro cluster h
        rw [KeyedCall.start_route_multiPut_of_ne _ hmatched]
        exact ⟨h, nofun⟩
    | _ => exact absurd trivial hmatched

/-- A key that is stored is found, if the controller and its owner are up. -/
theorem Placed.start_get (h : Placed controller assignment cluster) {value : String}
    (hvalue : (cluster.held server)[key]? = some value) (hcontroller : controller ∉ cluster.down)
    (hup : server ∉ cluster.down) :
    ∃ after, ((router controller).get key).start cluster = (.ok value, after) := by
  obtain rfl := h.controller_eq
  have hmem : key ∈ cluster.held server := by
    rw [Std.ExtTreeMap.mem_iff_isSome_getElem?, hvalue]
    rfl
  have howner := h.placed server key hmem
  obtain ⟨engine, hengine, -⟩ := exists_store_of_mem_held hmem
  have hserves : cluster.Serves server :=
    ⟨fun heq => h.apart (heq ▸ Assignment.mem_names_of_serverOf? howner), h.canned_eq, hup,
      engine, hengine, h.sound server engine hengine⟩
  obtain ⟨engine, -, -, hstart⟩ : Ends cluster server
      (Call.start ((router cluster.controller).clientFor key >>= fun client => client.get key)
        cluster) ((cluster.held server).lookup key) (cluster.held server) :=
    h.ends_clientFor hcontroller howner (hserves.ends_get key)
  rw [Contents.lookup, hvalue] at hstart
  exact ⟨_, hstart⟩

/-! ## Runs -/

/-- What happens to a cluster while nobody moves shards: a call of a router, or a peer that goes
down or comes back. -/
inductive Event where
  | call (call : KeyedCall)
  | down (address : String)
  | up (address : String)

/-- The cluster that an event leaves behind. -/
def Event.apply (cluster : Cluster) : Event → Cluster
  | .call made => ((made.route (router cluster.controller)).start cluster).2
  | .down address => cluster.takeDown address
  | .up address => cluster.bringUp address

/-- The cluster that a run of events leaves behind. -/
def run (cluster : Cluster) (events : List Event) : Cluster := events.foldl Event.apply cluster

/-- It does not matter to the keys who is down. -/
theorem Placed.withDown (h : Placed controller assignment cluster) (down : List String) :
    Placed controller assignment { cluster with down } :=
  ⟨⟨h.assignment_eq, h.apart, h.canned_eq⟩, h.controller_eq, h.sound, h.placed⟩

theorem Placed.apply (h : Placed controller assignment cluster) (event : Event) :
    Placed controller assignment (event.apply cluster) := by
  cases event with
  | call call =>
      obtain rfl := h.controller_eq
      exact (Placed.keeps_route call cluster h).1
  | down address =>
      show Placed controller assignment (cluster.takeDown address)
      rw [takeDown]
      split_ifs
      · exact h
      · exact h.withDown _
  | up address => exact h.withDown _

theorem Placed.run {events : List Event} (h : Placed controller assignment cluster) :
    Placed controller assignment (cluster.run events) := by
  induction events generalizing cluster with
  | nil => exact h
  | cons event events ih => exact ih (h.apply event)

/-- From empty stores on, whatever happens while the assignment stays what it is, every key is
stored at its owner. So it is stored once, and found where the controller and the owner are up. -/
theorem stored_at_owner
    (happart : cluster.controller ∉ cluster.authority.assignment.names)
    (hcanned : cluster.canned = [])
    (hempty : ∀ (server : String) (engine : Engine), cluster.stores[server]? = some engine →
      engine.Sound ∧ contents engine = ∅) (events : List Event) :
    let assignment := cluster.authority.assignment
    let reached := cluster.run events
    reached.authority.assignment = assignment ∧ reached.controller = cluster.controller ∧
    (∀ server, ∀ key ∈ reached.held server, assignment.serverOf? key = some server) ∧
    (∀ first second, ∀ key ∈ reached.held first, key ∈ reached.held second → first = second) ∧
    ∀ server key value, (reached.held server)[key]? = some value →
      reached.controller ∉ reached.down → server ∉ reached.down →
        ∃ after, ((router reached.controller).get key).start reached = (.ok value, after) := by
  intro assignment reached
  have hplaced : Placed cluster.controller assignment cluster := by
    refine ⟨⟨rfl, happart, hcanned⟩, rfl, fun server engine h => (hempty server engine h).1, ?_⟩
    intro server key hkey
    obtain ⟨engine, hengine, hmem⟩ := exists_store_of_mem_held hkey
    rw [(hempty server engine hengine).2] at hmem
    exact absurd hmem Std.ExtTreeMap.not_mem_empty
  have h : Placed cluster.controller assignment reached := hplaced.run
  refine ⟨h.assignment_eq, h.controller_eq, h.placed, ?_, ?_⟩
  · intro first second key hfirst hsecond
    exact Option.some.inj ((h.placed first key hfirst).symm.trans (h.placed second key hsecond))
  · intro server key value hvalue hcontroller hup
    rw [h.controller_eq] at hcontroller ⊢
    exact h.start_get hvalue hcontroller hup

/-- Overlapping shards, and a key without an owner. A write breaks off because a server is down, and
the controller is away for a while. -/
theorem stored_at_owner_while_down :
    let assignment : Assignment := ⟨.ofList ([("s1", [.ofKey "a", .ofKey "c"]),
      ("s2", [.ofKey "a", .ofKey "b"])] : List (String × List Shard))⟩
    let cluster := ofAuthority "controller" (.fixed assignment) (.simple FlatStore.empty)
    let events : List Event := [.down "s2", .call (.multiPut ["a", "b", "c"] ["1", "2", "3"]),
      .down "controller", .call (.put "b" "4"), .up "s2", .up "controller",
      .call (.append "b" "5"), .call (.put "d" "6"), .call (.delete "c")]
    cluster.controller ∉ cluster.authority.assignment.names ∧ cluster.canned = [] ∧
      (∀ (server : String) (engine : Engine), cluster.stores[server]? = some engine →
        engine.Sound ∧ contents engine = ∅) ∧
      ((cluster.run events).held "s1")["a"]? = some "1" ∧
      ∃ after, ((router (cluster.run events).controller).get "a").start (cluster.run events) =
        (.ok "1", after) := by
  intro assignment cluster events
  have happart : cluster.controller ∉ cluster.authority.assignment.names :=
    show "controller" ∉ assignment.names by decide +kernel
  have hempty : ∀ (server : String) (engine : Engine), cluster.stores[server]? = some engine →
      engine.Sound ∧ contents engine = ∅ := by
    intro server engine hengine
    obtain ⟨-, rfl⟩ := getElem?_stores_ofAuthority.mp hengine
    exact Engine.Fresh.simple.sound_and_empty
  have hvalue : ((cluster.run events).held "s1")["a"]? = some "1" := by decide +kernel
  obtain ⟨-, -, -, -, hfound⟩ := stored_at_owner happart rfl hempty events
  exact ⟨happart, rfl, hempty, hvalue,
    hfound "s1" "a" "1" hvalue (by decide +kernel) (by decide +kernel)⟩

end Cluster

end Keyspace
