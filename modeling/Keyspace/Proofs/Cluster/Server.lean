/-
# Calls of one server

A call of a server that serves ends as the operation on the store of that server does,
and changes nothing but that store. The reports that failures travel in lose nothing on
the way: the only failure of a sound store is that a key is absent, and its report names
the key. In a cluster that is ready, every server of the assignment serves unless it is
down.
-/

import Mathlib
import Keyspace.Proofs.Call
import Keyspace.Proofs.Result
import Keyspace.Proofs.Store.Engine
import Keyspace.Proofs.Assignment.Ownership
import Keyspace.Proofs.Service

namespace Keyspace

open KvStore (contents)

variable {α : Type}

namespace Cluster

/-- The controller answers with the assignment and is none of its servers, and nothing is canned. -/
structure Governed (cluster : Cluster) (assignment : Assignment) : Prop where
  assignment_eq : cluster.authority.assignment = assignment
  apart : cluster.controller ∉ assignment.names
  canned_eq : cluster.canned = []

/-- A cluster that can be worked with: every server of its assignment has a store that is between
two operations. Who is down is left open. -/
structure Ready (cluster : Cluster) (assignment : Assignment) : Prop
    extends Governed cluster assignment where
  sound : ∀ server ∈ assignment.names,
    ∃ engine, cluster.stores[server]? = some engine ∧ engine.Sound

/-- Requests to the server reach a store that is between two operations. -/
structure Serves (cluster : Cluster) (server : String) : Prop where
  apart : server ≠ cluster.controller
  canned_eq : cluster.canned = []
  up : server ∉ cluster.down
  sound : ∃ engine, cluster.stores[server]? = some engine ∧ engine.Sound

/-- What the store of a server holds; nothing if there is no such server. -/
def held (cluster : Cluster) (server : String) : Contents :=
  ((cluster.stores[server]?).map contents).getD ∅

/-- The cluster with another store for a server. -/
def withStore (cluster : Cluster) (server : String) (engine : Engine) : Cluster :=
  { cluster with stores := cluster.stores.insert server engine }

/-- A call of a server ended with an outcome, in the cluster with a store for the server that is
sound and holds `items`. -/
def Ends (cluster : Cluster) (server : String) (result : KvResult α × Cluster)
    (outcome : KvResult α) (items : Contents) : Prop :=
  ∃ engine : Engine, engine.Sound ∧ contents engine = items ∧
    result = (outcome, cluster.withStore server engine)

variable {cluster : Cluster} {assignment : Assignment} {server other : String} {engine : Engine}
  {request : Request}

theorem getElem?_stores_withStore :
    (cluster.withStore server engine).stores[other]? =
      if other = server then some engine else cluster.stores[other]? := by
  show (cluster.stores.insert server engine)[other]? = _
  rw [Std.ExtTreeMap.getElem?_insert]
  simp only [Std.LawfulEqCmp.compare_eq_iff_eq, eq_comm (a := server)]

theorem held_withStore :
    (cluster.withStore server engine).held other =
      if other = server then contents engine else cluster.held other := by
  rw [held, getElem?_stores_withStore]
  split_ifs <;> rfl

theorem held_eq (h : cluster.stores[server]? = some engine) :
    cluster.held server = contents engine := by
  rw [held, h]
  rfl

/-- A key that is held is held by a store. -/
theorem exists_store_of_mem_held {key : String} (h : key ∈ cluster.held server) :
    ∃ engine, cluster.stores[server]? = some engine ∧ key ∈ contents engine := by
  cases hengine : cluster.stores[server]? with
  | none =>
      rw [held, hengine] at h
      exact absurd h Std.ExtTreeMap.not_mem_empty
  | some engine => exact ⟨engine, rfl, held_eq hengine ▸ h⟩

/-- What a server holds depends on its store alone. -/
theorem held_congr {first second : Cluster} (h : first.stores[server]? = second.stores[server]?) :
    first.held server = second.held server := by
  rw [held, held, h]

/-- A sound store keeps the cluster ready. -/
theorem Ready.withStore (h : cluster.Ready assignment) (hsound : engine.Sound) :
    (cluster.withStore server engine).Ready assignment := by
  refine ⟨⟨h.assignment_eq, h.apart, h.canned_eq⟩, ?_⟩
  intro other hother
  rw [getElem?_stores_withStore]
  split_ifs
  · exact ⟨engine, rfl, hsound⟩
  · exact h.sound other hother

/-- What a call leaves behind: a ready cluster, with its controller where it was and the same peers
down. -/
structure Leaves (assignment : Assignment) (cluster after : Cluster) : Prop where
  ready : after.Ready assignment
  controller_eq : after.controller = cluster.controller
  down_eq : after.down = cluster.down

theorem Ready.leaves_self (h : cluster.Ready assignment) : Leaves assignment cluster cluster :=
  ⟨h, rfl, rfl⟩

theorem Ready.leaves_withStore (h : cluster.Ready assignment) (hsound : engine.Sound) :
    Leaves assignment cluster (cluster.withStore server engine) :=
  ⟨h.withStore hsound, rfl, rfl⟩

theorem Leaves.trans {between after : Cluster} (h : Leaves assignment cluster between)
    (h' : Leaves assignment between after) : Leaves assignment cluster after :=
  ⟨h'.ready, h'.controller_eq.trans h.controller_eq, h'.down_eq.trans h.down_eq⟩

theorem Ready.serves (h : cluster.Ready assignment) (hserver : server ∈ assignment.names)
    (hup : server ∉ cluster.down) : cluster.Serves server where
  apart := fun heq => h.apart (heq ▸ hserver)
  canned_eq := h.canned_eq
  up := hup
  sound := h.sound server hserver

/-! ## Sending -/

/-- A request to a peer that is down changes nothing. -/
theorem start_send_of_down (hdown : server ∈ cluster.down) :
    (transport.send server request).start cluster =
      (.error (.transport server "connection refused"), cluster) := by
  show reply server request cluster = _
  rw [reply, if_pos hdown]

/-- Where nothing is canned, a request to a server that is up is delivered. -/
theorem start_send_of_up (hup : server ∉ cluster.down) (hcanned : cluster.canned = []) :
    (transport.send server request).start cluster = cluster.deliver server request := by
  have hnone : cluster.cannedReply? server request.endpoint = none := by
    rw [cannedReply?, hcanned]
    rfl
  show reply server request cluster = _
  rw [reply, if_neg hup, hnone]

/-- A request to a server that serves reaches its store. -/
theorem Serves.start_send (h : cluster.Serves server)
    (hengine : cluster.stores[server]? = some engine) {action : Action Engine Response}
    (hserve : serveStorage? request = some action) {result : KvResult Response} {after : Engine}
    (hstart : action.start engine = (result.mapError .refused, after)) :
    (transport.send server request).start cluster =
      (.ok (.ofResult result), cluster.withStore server after) := by
  have hexchange : exchange server request engine = (.ok (.ofResult result), after) :=
    exchange_eq hserve hstart
  rw [start_send_of_up h.up h.canned_eq, deliver, if_neg h.apart, hengine]
  simp only [hexchange]
  rfl

/-- A client of one of the servers. -/
abbrev client (server : String) : Client (StateM Cluster) := ⟨server, transport⟩

/-- A response that is no report is handed on. -/
theorem start_call_of_response {subject : String} {response : Response} {after : Cluster}
    (hresponse : response.verb?.isSome)
    (hsend : (transport.send server request).start cluster = (.ok response, after)) :
    ((client server).call request subject).start cluster = (.ok response, after) := by
  rw [Client.call, Call.start_bind_ok hsend]
  cases response with
  | error report => cases hresponse
  | _ => rfl

/-- A report of an absent key is the failure that was reported. -/
theorem start_call_of_absent {subject key : String} {after : Cluster}
    (hsend : (transport.send server request).start cluster =
      (.ok (.error (.ofError (.notFound key))), after)) :
    ((client server).call request subject).start cluster = (.error (.notFound key), after) := by
  rw [Client.call, Call.start_bind_ok hsend]
  rfl

/-- A call of a server that is down is refused the connection. -/
theorem start_call_of_down (hdown : server ∈ cluster.down) (subject : String) :
    ((client server).call request subject).start cluster =
      (.error (.transport server "connection refused"), cluster) :=
  Call.start_bind_error (start_send_of_down hdown) _

/-- A call of a server that serves has the result that the operation has which its request stands
for. The operation fails only where a key is absent, and the client reads back what it answers. -/
theorem Serves.start_call (h : cluster.Serves server)
    (hengine : cluster.stores[server]? = some engine) {op : Action Engine α} {wrap : α → Response}
    (hserve : serveStorage? request = some (wrap <$> op)) {result : KvResult α} {after : Engine}
    (hstart : op.start engine = (result.mapError .refused, after))
    (habsent : ∀ error, result = .error error → ∃ key, error = .notFound key)
    (hwrap : ∀ value, (wrap value).verb?.isSome)
    {read : Response → Call (StateM Cluster) α}
    (hread : ∀ value, result = .ok value → read (wrap value) = pure value) (subject : String) :
    Call.start ((client server).call request subject >>= read) cluster =
      (result, cluster.withStore server after) := by
  have hsend := h.start_send hengine hserve (Action.start_map_of_result hstart wrap)
  cases result with
  | ok value =>
      rw [Call.start_bind_ok (start_call_of_response (hwrap value) hsend), hread value rfl]
      rfl
  | error error =>
      obtain ⟨key, rfl⟩ := habsent error rfl
      rw [Call.start_bind_error (start_call_of_absent hsend)]

/-- What holds of the operation on every sound store holds of the call. -/
theorem Serves.ends_call (h : cluster.Serves server) {op : Action Engine α} {wrap : α → Response}
    (hserve : serveStorage? request = some (wrap <$> op))
    (outcome : Contents → KvResult α) (change : Contents → Contents)
    (hends : ∀ {engine : Engine}, engine.Sound → KvStore.Ends Engine.Sound (op.start engine)
      ((outcome (contents engine)).mapError .refused) (change (contents engine)))
    (habsent : ∀ error, outcome (cluster.held server) = .error error → ∃ key, error = .notFound key)
    (hwrap : ∀ result, (wrap result).verb?.isSome)
    {read : Response → Call (StateM Cluster) α}
    (hread : ∀ result, outcome (cluster.held server) = .ok result →
      read (wrap result) = pure result) (subject : String) :
    Ends cluster server (Call.start ((client server).call request subject >>= read) cluster)
      (outcome (cluster.held server)) (change (cluster.held server)) := by
  obtain ⟨engine, hengine, hsound⟩ := h.sound
  rw [held_eq hengine] at habsent hread ⊢
  have hend := hends hsound
  exact ⟨(op.start engine).2, hend.sound, hend.contents_eq,
    h.start_call hengine hserve hend.start_eq habsent hwrap hread subject⟩

/-! ## The calls -/

theorem exists_eq_notFound_of_lookup {items : Contents} {key : String} (error : KvError)
    (h : items.lookup key = .error error) : ∃ key, error = .notFound key :=
  ⟨key, (Contents.lookup_eq_error_iff.mp h).2⟩

section Calls

variable (h : cluster.Serves server)

include h

theorem Serves.ends_get (key : String) :
    Ends cluster server (((client server).get key).start cluster)
      ((cluster.held server).lookup key) (cluster.held server) :=
  h.ends_call rfl (fun items => items.lookup key) id
    (fun hsound => Engine.lawful.get hsound key) exists_eq_notFound_of_lookup
    (fun _ => rfl) (fun _ _ => rfl) key

theorem Serves.ends_put (key value : String) :
    Ends cluster server (((client server).put key value).start cluster) (.ok ())
      ((cluster.held server).insert key value) :=
  h.ends_call rfl (fun _ => .ok ()) (·.insert key value)
    (fun hsound => Engine.lawful.put hsound key value) nofun (fun _ => rfl) (fun _ _ => rfl) key

theorem Serves.ends_append (key value : String) :
    Ends cluster server (((client server).append key value).start cluster) (.ok ())
      ((cluster.held server).append key value) :=
  h.ends_call rfl (fun _ => .ok ()) (·.append key value)
    (fun hsound => Engine.lawful.append hsound key value) nofun (fun _ => rfl) (fun _ _ => rfl) key

theorem Serves.ends_delete (key : String) :
    Ends cluster server (((client server).delete key).start cluster)
      ((cluster.held server).lookup key) ((cluster.held server).erase key) :=
  h.ends_call rfl (fun items => items.lookup key) (·.erase key)
    (fun hsound => Engine.lawful.delete hsound key) exists_eq_notFound_of_lookup
    (fun _ => rfl) (fun _ _ => rfl) key

theorem Serves.ends_multiPut {keys values : List String} (hlength : keys.length = values.length) :
    Ends cluster server (((client server).multiPut keys values).start cluster) (.ok ())
      ((cluster.held server).insertMany (keys.zip values)) :=
  h.ends_call rfl (fun _ => .ok ()) (·.insertMany (keys.zip values))
    (fun hsound => Engine.lawful.multiPut hsound keys values hlength) nofun
    (fun _ => rfl) (fun _ _ => rfl) _

end Calls

/-! ## Reading -/

/-- What a client of a server finds for a key. -/
def found (cluster : Cluster) (server key : String) : KvResult String :=
  if server ∈ cluster.down then .error (.transport server "connection refused")
  else (cluster.held server).lookup key

theorem withStore_self (h : cluster.stores[server]? = some engine) :
    cluster.withStore server engine = cluster := by
  have hstores : cluster.stores.insert server engine = cluster.stores := by
    apply Std.ExtTreeMap.ext_getElem?
    intro other
    have hother : (cluster.stores.insert server engine)[other]? =
        if other = server then some engine else cluster.stores[other]? :=
      getElem?_stores_withStore
    rw [hother]
    split_ifs with heq
    · rw [heq, h]
    · rfl
  rw [withStore, hstores]

/-- Reading a key changes nothing. -/
theorem Ready.start_get_of_client (h : cluster.Ready assignment)
    (hserver : server ∈ assignment.names) (key : String) :
    ((client server).get key).start cluster = (cluster.found server key, cluster) := by
  rw [found]
  split_ifs with hdown
  · exact Call.start_bind_error (start_call_of_down hdown _) _
  · obtain ⟨engine, hengine, hsound⟩ := h.sound server hserver
    refine ((h.serves hserver hdown).start_call hengine rfl (Engine.start_get hsound key) ?_
      (fun _ => rfl) (fun _ _ => rfl) key).trans ?_
    · exact exists_eq_notFound_of_lookup
    · rw [withStore_self hengine, held_eq hengine]

/-- Reading several keys of a server is reading them one after another. -/
theorem Ready.start_multiGet_of_client (h : cluster.Ready assignment)
    (hserver : server ∈ assignment.names) {keys : List String} (hne : keys ≠ []) :
    ((client server).multiGet keys).start cluster =
      (keys.mapM (cluster.found server), cluster) := by
  by_cases hdown : server ∈ cluster.down
  · obtain ⟨key, rest, rfl⟩ := List.exists_cons_of_ne_nil hne
    rw [List.mapM_cons, found, if_pos hdown]
    exact Call.start_bind_error (start_call_of_down hdown _) _
  · obtain ⟨engine, hengine, hsound⟩ := h.sound server hserver
    have hfound : cluster.found server = (contents engine).lookup := by
      funext key
      rw [found, if_neg hdown, held_eq hengine]
    refine ((h.serves hserver hdown).start_call hengine rfl (Engine.start_multiGet hsound keys) ?_
      (fun _ => rfl) ?_ _).trans ?_
    · intro error herror
      by_cases hall : ∀ key ∈ keys, key ∈ contents engine
      · cases (Contents.mapM_lookup_of_forall_mem hall).symm.trans herror
      · obtain ⟨key, -, -, hkey⟩ := Contents.exists_mapM_lookup_eq_error hall
        exact ⟨key, Except.error.inj (herror.symm.trans hkey)⟩
    · intro values hvalues
      exact if_pos (length_of_mapM_eq_ok hvalues)
    · rw [withStore_self hengine, hfound]

end Cluster

end Keyspace
