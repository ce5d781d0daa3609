/-
# A cluster looks like one store

As long as the assignment stays what it is, every key has one owner, and the owner holds
for the key what a single store would hold that was given the same calls. Every call of
the router keeps that so and returns what the single store returns. The one difference
is which key is reported absent, where several of those that are to be read are: the
single store reports the first in the order of the call, the router the first in the
batch that it reads first.
-/

import Mathlib
import Keyspace.Proofs.Cluster.Gathering
import Keyspace.Proofs.Controller.Partition
import Keyspace.Proofs.Router.KeyedCall
import Keyspace.Proofs.TreeMap

namespace Keyspace

open KvStore (contents)

/-- What a call of the router returned matches what a single store did, which holds `direct.2` after
the call: both returned the same, or both found keys of a read absent, possibly different ones. -/
def KeyedCall.Matches (routed : KeyedCall × KvResult Answer)
    (direct : Except Failure Answer × Contents) : Prop :=
  direct.1 = routed.2.mapError .refused ∨
    ∃ keys, routed.1 = .multiGet keys ∧ ∃ first ∈ keys, ∃ second ∈ keys,
      first ∉ direct.2 ∧ second ∉ direct.2 ∧ routed.2 = .error (.notFound first) ∧
        direct.1 = .error (.refused (.notFound second))

namespace Cluster

variable {cluster : Cluster} {assignment : Assignment} {items : Contents} {key server : String}
  {keys values : List String}

/-- A cluster that nothing has happened to: the controller is none of the servers, all peers are up,
nothing is canned, and every server has a fresh store of its own. -/
structure Fresh (cluster : Cluster) : Prop where
  apart : cluster.controller ∉ cluster.authority.assignment.names
  all_up : cluster.down = []
  none_canned : cluster.canned = []
  stores : ∀ server ∈ cluster.authority.assignment.names,
    ∃ engine, cluster.stores[server]? = some engine ∧ engine.Fresh

/-- All peers are up, and what a single store holds is what the owners hold, each for its keys. -/
structure Reflects (cluster : Cluster) (assignment : Assignment) (items : Contents) : Prop where
  ready : cluster.Ready assignment
  all_up : cluster.down = []
  agree : ∀ key server, assignment.serverOf? key = some server →
    (cluster.held server)[key]? = items[key]?

/-- A fresh cluster reflects an empty store. -/
theorem Fresh.reflects (h : cluster.Fresh) : cluster.Reflects cluster.authority.assignment ∅ := by
  refine ⟨⟨⟨rfl, h.apart, h.none_canned⟩, ?_⟩, h.all_up, ?_⟩
  · intro server hserver
    obtain ⟨engine, hengine, hfresh⟩ := h.stores server hserver
    exact ⟨engine, hengine, hfresh.sound_and_empty.1⟩
  · intro key server howner
    obtain ⟨engine, hengine, hfresh⟩ := h.stores server (Assignment.mem_names_of_serverOf? howner)
    rw [held_eq hengine, hfresh.sound_and_empty.2]

/-- A cluster is made with one store, given to every server of the assignment. -/
theorem getElem?_stores_ofAuthority {controller : String} {authority : Authority}
    {engine found : Engine} :
    (ofAuthority controller authority engine).stores[server]? = some found ↔
      server ∈ authority.assignment.names ∧ engine = found := by
  have hnodup :
      ((authority.assignment.names.map fun name => (name, engine)).map Prod.fst).Nodup := by
    simpa [Function.comp_def] using authority.assignment.nodup_names
  refine (getElem?_ofList_eq_some_iff hnodup).trans ?_
  simp [List.mem_map, and_comm]

/-- A cluster is made fresh if its stores are. -/
theorem fresh_ofAuthority {controller : String} {authority : Authority} {engine : Engine}
    (happart : controller ∉ authority.assignment.names) (hengine : engine.Fresh) :
    (ofAuthority controller authority engine).Fresh :=
  ⟨happart, rfl, rfl, fun _ hserver =>
    ⟨engine, getElem?_stores_ofAuthority.mpr ⟨hserver, rfl⟩, hengine⟩⟩

theorem Reflects.not_mem_down (h : cluster.Reflects assignment items) (address : String) :
    address ∉ cluster.down := by
  rw [h.all_up]
  exact List.not_mem_nil

/-- A call of the router and the same call of a single store match, and the cluster they leave
behind reflects the store they leave behind. -/
structure Simulates (cluster : Cluster) (assignment : Assignment) (call : KeyedCall)
    (routed : KvResult Answer × Cluster) (direct : Except Failure Answer × FlatStore) : Prop where
  outcomes : KeyedCall.Matches (call, routed.1) (direct.1, direct.2.items)
  reflects : routed.2.Reflects assignment direct.2.items
  controller_eq : routed.2.controller = cluster.controller

/-- A call is simulated if its outcomes match, it leaves a ready cluster behind, and the owners then
hold for their keys what the single store holds. -/
theorem Reflects.simulates_of_ends (h : cluster.Reflects assignment items) {call : KeyedCall}
    {routed : KvResult Answer × Cluster} {direct : Except Failure Answer × FlatStore}
    {answer : KvResult Answer} {after : Cluster} {outcome : Except Failure Answer}
    {items' : Contents} (hrouted : routed = (answer, after))
    (hdirect : KvStore.Ends (fun _ : FlatStore => True) direct outcome items')
    (houtcomes : KeyedCall.Matches (call, answer) (outcome, items'))
    (hleaves : Leaves assignment cluster after)
    (hagree : ∀ key server, assignment.serverOf? key = some server →
      (after.held server)[key]? = items'[key]?) :
    Simulates cluster assignment call routed direct := by
  have hitems : direct.2.items = items' := hdirect.contents_eq
  rw [hrouted]
  refine ⟨?_, ⟨hleaves.ready, hleaves.down_eq.trans h.all_up, ?_⟩, hleaves.controller_eq⟩
  · rwa [hdirect.outcome_eq, hitems]
  · rwa [hitems]

/-! ## Calls of one key -/

/-- A call that depends on one key, and changes no other, does at the owner of the key what it does
to a single store. -/
theorem Reflects.simulates_of_actsOn {α : Type} (h : cluster.Reflects assignment items)
    (howned : (assignment.serverOf? key).isSome) {call : KeyedCall}
    {routed : Client (StateM Cluster) → Call (StateM Cluster) α} {direct : Action FlatStore α}
    (outcome : Contents → KvResult α) (change : Contents → Contents) (answer : α → Answer)
    (houtcome : ∀ {first second : Contents}, first[key]? = second[key]? →
      outcome first = outcome second) (hacts : Contents.ActsOn key change)
    (hrouted : ∀ {server}, server ∈ assignment.names → server ∉ cluster.down →
      Ends cluster server ((routed (client server)).start cluster) (outcome (cluster.held server))
        (change (cluster.held server)))
    (hdirect : KvStore.Ends (fun _ : FlatStore => True) (direct.start ⟨items⟩)
      ((outcome items).mapError .refused) (change items)) :
    Simulates cluster assignment call
      (Call.start (answer <$> ((router cluster.controller).clientFor key >>= routed)) cluster)
      (Action.start (answer <$> direct) ⟨items⟩) := by
  obtain ⟨server, howner⟩ := Option.isSome_iff_exists.mp howned
  have hserver := Assignment.mem_names_of_serverOf? howner
  obtain ⟨engine, hsound, hcontents, hstart⟩ :=
    h.ready.ends_clientFor (h.not_mem_down _) howner (hrouted hserver (h.not_mem_down server))
  rw [houtcome (h.agree key server howner)] at hstart
  refine h.simulates_of_ends (Call.start_map answer _) (hdirect.map answer) (.inl ?_) ?_ ?_
  · rw [hstart]
    cases outcome items <;> rfl
  · rw [hstart]
    exact h.ready.leaves_withStore hsound
  · intro other owner hother
    rw [hstart, held_withStore]
    -- The key changes at the one server that owns it; any other key stays, at that server too.
    by_cases hkey : other = key
    · subst hkey
      obtain rfl : owner = server := Option.some.inj (hother.symm.trans howner)
      rw [if_pos rfl, hcontents]
      exact hacts.here _ _ (h.agree _ _ howner)
    · rw [hacts.elsewhere _ _ hkey, ← h.agree other owner hother]
      split_ifs with hname
      · rw [hcontents, hname, hacts.elsewhere _ _ hkey]
      · rfl

/-! ## Calls of several keys -/

theorem Reflects.simulates_multiGet (h : cluster.Reflects assignment items)
    (howned : ∀ key ∈ keys, (assignment.serverOf? key).isSome) :
    Simulates cluster assignment (.multiGet keys)
      (((KeyedCall.multiGet keys).route (router cluster.controller)).start cluster)
      (((KeyedCall.multiGet keys).operation.perform).start ⟨items⟩) := by
  have hread : ∀ key ∈ keys, cluster.read assignment key = items.lookup key := by
    intro key hkey
    obtain ⟨server, howner⟩ := Option.isSome_iff_exists.mp (howned key hkey)
    rw [read_of_owner howner, found, if_neg (h.not_mem_down server)]
    exact Contents.lookup_congr (h.agree key server howner)
  have hstart := h.ready.start_multiGet (h.not_mem_down _) howned
  rw [gather_congr hread] at hstart
  have hdirect := FlatStore.lawful.multiGet (s := ⟨items⟩) trivial keys
  refine h.simulates_of_ends (Call.start_map Answer.values _) (hdirect.map Answer.values) ?_ ?_ ?_
  · rw [hstart]
    by_cases hall : ∀ key ∈ keys, key ∈ items
    · left
      rw [gather_eq_ok howned fun key hkey => Contents.lookup_of_mem (hall key hkey)]
      show Except.map _ (Except.mapError _ (keys.mapM items.lookup)) = _
      rw [Contents.mapM_lookup_of_forall_mem hall]
      rfl
    · right
      obtain ⟨first, hfirst, hfirstabsent, hgather⟩ := exists_gather_lookup_eq_error howned hall
      obtain ⟨second, hsecond, hsecondabsent, hmapM⟩ :=
        Contents.exists_mapM_lookup_eq_error hall
      refine ⟨keys, rfl, first, hfirst, second, hsecond, hfirstabsent, hsecondabsent, ?_, ?_⟩
      · rw [hgather]
        rfl
      · show Except.map _ (Except.mapError _ (keys.mapM items.lookup)) = _
        rw [hmapM]
        rfl
  · rw [hstart]
    exact h.ready.leaves_self
  · intro key server howner
    rw [hstart]
    exact h.agree key server howner

theorem Reflects.simulates_multiPut (h : cluster.Reflects assignment items)
    (howned : ∀ key ∈ keys, (assignment.serverOf? key).isSome) :
    Simulates cluster assignment (.multiPut keys values)
      (((KeyedCall.multiPut keys values).route (router cluster.controller)).start cluster)
      (((KeyedCall.multiPut keys values).operation.perform).start ⟨items⟩) := by
  by_cases hlength : keys.length = values.length
  · obtain ⟨after, hstart, hleaves, hheld⟩ :=
      h.ready.start_multiPut (h.not_mem_down _) hlength howned fun _ _ server _ =>
        h.not_mem_down server
    have hrouted : ((KeyedCall.multiPut keys values).route (router cluster.controller)).start
        cluster = (.ok .done, after) :=
      (Call.start_map _ _).trans (by rw [hstart]; rfl)
    have hdirect := FlatStore.lawful.multiPut (s := ⟨items⟩) trivial keys values hlength
    apply h.simulates_of_ends hrouted (hdirect.map _) (.inl rfl) hleaves
    intro key server howner
    have hpairs : ∀ pair ∈ keys.zip values, pair.1 = key →
        decide (assignment.serverOf? pair.1 = some server) := by
      intro pair _ hkey
      rw [hkey, howner]
      exact decide_eq_true rfl
    rw [hheld server (Assignment.mem_names_of_serverOf? howner), getElem?_insertMany,
      lookup_reverse_filter hpairs, h.agree key server howner]
    exact (getElem?_insertMany items).symm
  · have hrouted : ((KeyedCall.multiPut keys values).route (router cluster.controller)).start
        cluster = (.error (.lengthMismatch keys.length values.length), cluster) :=
      (Call.start_map _ _).trans (by rw [Router.multiPut, if_neg hlength]; rfl)
    have hdirect := FlatStore.lawful.multiPut_of_ne (s := ⟨items⟩) trivial keys values hlength
    exact h.simulates_of_ends hrouted (hdirect.map _) (.inl rfl) h.ready.leaves_self h.agree

/-! ## Runs -/

/-- Every call on owned keys is simulated. -/
theorem Reflects.simulates (h : cluster.Reflects assignment items) (call : KeyedCall)
    (howned : ∀ key ∈ call.keys, (assignment.serverOf? key).isSome) :
    Simulates cluster assignment call ((call.route (router cluster.controller)).start cluster)
      (call.operation.perform.start ⟨items⟩) := by
  cases call with
  | get key =>
      exact h.simulates_of_actsOn (howned key (List.mem_singleton.mpr rfl))
        (fun items => items.lookup key) id .value Contents.lookup_congr (Contents.actsOn_id key)
        (fun hserver hup => (h.ready.serves hserver hup).ends_get key)
        (FlatStore.lawful.get trivial key)
  | put key value =>
      exact h.simulates_of_actsOn (howned key (List.mem_singleton.mpr rfl))
        (fun _ => .ok ()) (·.insert key value) (fun () => .done) (fun _ => rfl)
        (Contents.actsOn_insert key value)
        (fun hserver hup => (h.ready.serves hserver hup).ends_put key value)
        (FlatStore.lawful.put trivial key value)
  | append key value =>
      exact h.simulates_of_actsOn (howned key (List.mem_singleton.mpr rfl))
        (fun _ => .ok ()) (·.append key value) (fun () => .done) (fun _ => rfl)
        (Contents.actsOn_append key value)
        (fun hserver hup => (h.ready.serves hserver hup).ends_append key value)
        (FlatStore.lawful.append trivial key value)
  | delete key =>
      exact h.simulates_of_actsOn (howned key (List.mem_singleton.mpr rfl))
        (fun items => items.lookup key) (·.erase key) .value Contents.lookup_congr
        (Contents.actsOn_erase key)
        (fun hserver hup => (h.ready.serves hserver hup).ends_delete key)
        (FlatStore.lawful.delete trivial key)
  | multiGet keys => exact h.simulates_multiGet howned
  | multiPut keys values => exact h.simulates_multiPut howned

/-- Every run on owned keys is simulated call by call. -/
theorem Reflects.forall₂_trace {calls : List KeyedCall} (h : cluster.Reflects assignment items)
    (howned : ∀ call ∈ calls, ∀ key ∈ call.keys, (assignment.serverOf? key).isSome) :
    List.Forall₂ KeyedCall.Matches (KeyedCall.trace (router cluster.controller) calls cluster)
      (Operation.trace (calls.map KeyedCall.operation) (⟨items⟩ : FlatStore)) := by
  induction calls generalizing cluster items with
  | nil => exact .nil
  | cons call calls ih =>
      rw [List.forall_mem_cons] at howned
      have hstep := h.simulates call howned.1
      apply List.Forall₂.cons hstep.outcomes
      have hrest := ih hstep.reflects howned.2
      rw [hstep.controller_eq] at hrest
      exact hrest

/-- From a fresh cluster on, every run of calls on keys that have owners returns what it returns on
an empty store, up to the choice among several absent keys. -/
theorem looks_like_one_store (hfresh : cluster.Fresh) (calls : List KeyedCall)
    (howned : ∀ call ∈ calls, ∀ key ∈ call.keys,
      (cluster.authority.assignment.serverOf? key).isSome) :
    List.Forall₂ KeyedCall.Matches (KeyedCall.trace (router cluster.controller) calls cluster)
      (Operation.trace (calls.map KeyedCall.operation) FlatStore.empty) :=
  hfresh.reflects.forall₂_trace howned

/-- Two servers, each with two buckets that share a hash. Keys are repeated, absent, and given
without values. -/
theorem looks_like_one_store_two_servers :
    let authority := Authority.live (Controller.ofServers ["b", "a", "b"])
    let engine := Engine.striped ⟨fun _ => 7, Array.replicate 2 ⟨∅, .free⟩⟩
    let cluster := ofAuthority "controller" authority engine
    let calls : List KeyedCall :=
      [.multiPut ["x", "y", "x"] ["1", "2", "3"], .multiGet ["z", "w", "x"], .append "z" "4",
        .multiPut ["w"] [], .delete "y", .get "y", .multiGet ["z", "x", "z"]]
    cluster.Fresh ∧
      (∀ call ∈ calls, ∀ key ∈ call.keys,
        (cluster.authority.assignment.serverOf? key).isSome) ∧
      List.Forall₂ KeyedCall.Matches (KeyedCall.trace (router cluster.controller) calls cluster)
        (Operation.trace (calls.map KeyedCall.operation) FlatStore.empty) := by
  intro authority engine cluster calls
  have hpartition : authority.assignment.IsPartition :=
    Controller.isPartition_ofServers (by decide) (by decide)
  have happart : "controller" ∉ authority.assignment.names := fun hmem =>
    absurd (Controller.mem_names_ofServers.mp hmem) (by decide)
  have hengine : engine.Fresh :=
    .striped (show BucketStore.ofCount (fun _ => 7) 2 = .ok _ from rfl)
  have hfresh : cluster.Fresh := fresh_ofAuthority happart hengine
  have howned : ∀ call ∈ calls, ∀ key ∈ call.keys,
      (cluster.authority.assignment.serverOf? key).isSome := by
    intro call _ key _
    obtain ⟨server, howns, -⟩ := hpartition.owned (shardHash key)
    exact Option.isSome_iff_exists.mpr howns.exists_owner?
  exact ⟨hfresh, howned, looks_like_one_store hfresh calls howned⟩

end Cluster

end Keyspace
