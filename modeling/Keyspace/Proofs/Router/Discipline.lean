/-
# What a router sends

A router asks the controller for the assignment, once and before anything else. Then it
sends its plan for the call in turn, and stops behind the first request that is not
answered. None of this depends on who answers, or what.
-/

import Mathlib
import Keyspace.Proofs.Router.InTurn
import Keyspace.Proofs.Router.Plan

namespace Keyspace

/-! ## The query and the batches -/

namespace Router

variable {m : Type → Type} [Monad m] [LawfulMonad m] (router : Router m)

/-- What a router makes of the reply to its query. -/
def queried : KvResult Response → KvResult Assignment
  | .ok (.query assignment) => .ok assignment
  | .ok (.error report) => .error (.queryRefused report.message)
  | .ok response => .error (.unexpectedController response.inspect)
  | .error error => .error (.controllerUnreachable error)

/-- Every reply that is no assignment is a failure of routing. -/
theorem exists_queried_eq_routing {reply : KvResult Response}
    (h : ∀ assignment, reply ≠ .ok (.query assignment)) :
    ∃ reason, queried reply = .error (.routing reason) := by
  cases reply with
  | error error => exact ⟨_, rfl⟩
  | ok response =>
      cases response with
      | query assignment => exact absurd rfl (h assignment)
      | _ => exact ⟨_, rfl⟩

/-- A query is one request to the controller. -/
theorem run_query :
    ExceptT.run router.query =
      queried <$> ExceptT.run (router.transport.send router.controller .query) := by
  rw [query, ask, ExceptT.run_bind, ExceptT.run_tryCatch, bind_assoc, map_eq_pure_bind]
  congr
  funext reply
  cases reply with
  | error error =>
      simp only [ExceptT.run_throw, pure_bind]
      rfl
  | ok response =>
      rw [pure_bind]
      cases response <;> rfl

theorem start_query_recorded {σ : Type} {transport : Transport (StateM σ)} {controller : String}
    {reply : KvResult Response} {s t : σ}
    (hsend : (transport.send controller .query).start s = (reply, t))
    (transcript : List Exchange) :
    (Router.mk controller transport.recorded).query.start (s, transcript) =
      (queried reply, t, transcript ++ [⟨⟨controller, .query⟩, reply⟩]) := by
  have hrecorded := Transport.start_send_recorded hsend transcript
  unfold Call.start at hrecorded ⊢
  rw [run_query, StateT.run_map, hrecorded]
  rfl

/-- Reading a batch is one exchange with its server. -/
theorem exchanges_readBatch (batch : Batch String) :
    (router.client batch.server).Exchanges (router.readBatch batch)
      (.multiGet (batch.items.map (·.1)))
      fun response => (batch.items.map (·.2)).zip response.texts := by
  rw [readBatch, bind_pure_comp]
  exact (Client.exchanges_multiGet _ _).map _

/-- Writing a batch is one exchange with its server. -/
theorem exchanges_writeBatch (batch : Batch (String × String)) :
    (router.client batch.server).Exchanges (router.writeBatch batch)
      (.multiPut (batch.items.map (·.1.1)) (batch.items.map (·.1.2))) fun _ => () :=
  Client.exchanges_multiPut _ _ _

end Router

namespace KeyedCall

variable {σ : Type} {transport : Transport (StateM σ)} {controller : String} {a : Assignment}

/-- What a router does for a call once it has the assignment. -/
def follow {m : Type → Type} [Monad m] (router : Router m) (a : Assignment) :
    KeyedCall → Call m Answer
  | multiGet keys => do
    let batches ← Router.batches a id keys
    let parts ← batches.mapM router.readBatch
    pure (.values (Router.scatter keys.length parts.flatten))
  | multiPut keys values => do
    let batches ← Router.batches a (·.1) (keys.zip values)
    batches.forM router.writeBatch
    pure .done
  | get key => do (get key).ask (router.client (← Router.ownerOf a key))
  | put key value => do (put key value).ask (router.client (← Router.ownerOf a key))
  | append key value => do (append key value).ask (router.client (← Router.ownerOf a key))
  | delete key => do (delete key).ask (router.client (← Router.ownerOf a key))

/-- Every call starts with a query, unless it is a write whose values do not match its keys. -/
theorem route_eq_bind (router : Router (StateM σ)) {call : KeyedCall} (h : call.Matched) :
    call.route router = router.query >>= fun a => call.follow router a := by
  cases call with
  | multiPut keys values =>
      rw [route, Router.multiPut, if_pos (show keys.length = values.length from h)]
      simp [follow]
  | multiGet keys => simp [route, follow, Router.multiGet]
  | get key => simp [route, follow, Router.get, Router.clientFor, ask]
  | put key value => simp [route, follow, Router.put, Router.clientFor, ask]
  | append key value => simp [route, follow, Router.append, Router.clientFor, ask]
  | delete key => simp [route, follow, Router.delete, Router.clientFor, ask]

/-- If not all keys have owners, there is a first one that has none. -/
theorem exists_first_unowned {keys : List String}
    (h : ¬ ∀ key ∈ keys, (a.serverOf? key).isSome) :
    ∃ before name after, keys = before ++ name :: after ∧
      (∀ key ∈ before, (a.serverOf? key).isSome) ∧ a.serverOf? name = none := by
  obtain ⟨before, name, after, hkeys, hbefore, hname⟩ := exists_first_not h
  exact ⟨before, name, after, hkeys, hbefore, Option.not_isSome_iff_eq_none.mp hname⟩

/-- A key without an owner, the first one, ends a call before anything is sent. -/
theorem start_follow_of_unowned {τ : Type} (router : Router (StateM τ)) {call : KeyedCall}
    (hmatched : call.Matched) {before after : List String} {name : String}
    (hkeys : call.keys = before ++ name :: after)
    (hbefore : ∀ key ∈ before, (a.serverOf? key).isSome) (hname : a.serverOf? name = none) (s : τ) :
    (call.follow router a).start s = (.error (.unowned name), s) := by
  have hone : ∀ {key : String} {next : String → Call (StateM τ) Answer},
      [key] = before ++ name :: after →
        Call.start (liftM (Router.ownerOf a key) >>= next) s = (.error (.unowned name), s) := by
    intro key next hsplit
    obtain ⟨rfl, rfl, rfl⟩ : before = [] ∧ name = key ∧ after = [] := by
      cases before <;> simp_all
    rw [Router.ownerOf, hname, Call.start_bind_error (Call.start_liftM _)]
  cases call with
  | get key => exact hone hkeys
  | put key value => exact hone hkeys
  | append key value => exact hone hkeys
  | delete key => exact hone hkeys
  | multiGet keys =>
      have hbatches : Router.batches a id keys = .error (.unowned name) :=
        Router.batches_eq_error (by rw [List.map_id]; exact hkeys) hbefore hname
      rw [follow, hbatches, Call.start_bind_error (Call.start_liftM _)]
  | multiPut keys values =>
      have hbatches : Router.batches a (·.1) (keys.zip values) = .error (.unowned name) :=
        Router.batches_eq_error (by rw [List.map_fst_zip hmatched.le]; exact hkeys) hbefore hname
      rw [follow, hbatches, Call.start_bind_error (Call.start_liftM _)]

/-- The values of a read, each put in the places of its batch. -/
def gathered (a : Assignment) (keys : List String) (responses : List Response) : Answer :=
  .values (Router.scatter keys.length (List.zipWith (fun batch response =>
    (batch.items.map (·.2)).zip response.texts) (Router.batchesOf a id keys) responses).flatten)

/-- A read of owned keys sends its plan in turn and puts the values in place. -/
theorem start_follow_multiGet {keys : List String}
    (howned : ∀ key ∈ keys, (a.serverOf? key).isSome) (controller : String) (s : σ)
    (transcript : List Exchange) :
    ∃ exchanges t, InTurn ((multiGet keys).plan a) exchanges ∧
      ((multiGet keys).follow ⟨controller, transport.recorded⟩ a).start (s, transcript) =
        ((exchanges.mapM Exchange.result).map (gathered a keys), t, transcript ++ exchanges) := by
  have hexchanges : ∀ batch ∈ Router.batchesOf a id keys,
      (Client.mk batch.server transport.recorded).Exchanges
        ((Router.mk controller transport.recorded).readBatch batch)
        (.multiGet (batch.items.map (·.1)))
        fun response => (batch.items.map (·.2)).zip response.texts :=
    fun batch _ => Router.exchanges_readBatch ⟨controller, transport.recorded⟩ batch
  obtain ⟨exchanges, t, hinturn, hstart⟩ := Router.start_mapM_inTurn hexchanges s transcript
  refine ⟨exchanges, t, by rwa [plan_multiGet], ?_⟩
  have hbatches : Router.batches a id keys = .ok (Router.batchesOf a id keys) :=
    Router.batches_eq howned
  rw [follow, hbatches, Call.start_bind_ok (Call.start_liftM _)]
  cases hresponses : exchanges.mapM Exchange.result with
  | error error =>
      rw [hresponses] at hstart
      exact Call.start_bind_error hstart _
  | ok responses =>
      rw [hresponses] at hstart
      exact Call.start_bind_ok hstart _

/-- A write of owned keys sends its plan in turn. -/
theorem start_follow_multiPut {keys values : List String} (hlength : keys.length = values.length)
    (howned : ∀ key ∈ keys, (a.serverOf? key).isSome) (controller : String) (s : σ)
    (transcript : List Exchange) :
    ∃ exchanges t, InTurn ((multiPut keys values).plan a) exchanges ∧
      ((multiPut keys values).follow ⟨controller, transport.recorded⟩ a).start (s, transcript) =
        ((exchanges.mapM Exchange.result).map fun _ => .done, t, transcript ++ exchanges) := by
  have hexchanges : ∀ batch ∈ Router.batchesOf a (·.1) (keys.zip values),
      (Client.mk batch.server transport.recorded).Exchanges
        ((Router.mk controller transport.recorded).writeBatch batch)
        (.multiPut (batch.items.map (·.1.1)) (batch.items.map (·.1.2))) fun _ => () :=
    fun batch _ => Router.exchanges_writeBatch ⟨controller, transport.recorded⟩ batch
  obtain ⟨exchanges, t, hinturn, hstart⟩ := Router.start_mapM_inTurn hexchanges s transcript
  refine ⟨exchanges, t, by rwa [plan_multiPut a hlength], ?_⟩
  have hbatches : Router.batches a (·.1) (keys.zip values) =
      .ok (Router.batchesOf a (·.1) (keys.zip values)) :=
    Router.batches_eq fun item hitem => howned item.1 (List.of_mem_zip hitem).1
  rw [follow, hbatches, Call.start_bind_ok (Call.start_liftM _), Call.forM_eq_map_mapM]
  cases hresponses : exchanges.mapM Exchange.result with
  | error error =>
      rw [hresponses] at hstart
      exact Call.start_bind_error (Call.start_map_of_start hstart _) _
  | ok responses =>
      rw [hresponses] at hstart
      exact Call.start_bind_ok (Call.start_map_of_start hstart _) _

/-- A call about one owned key is one exchange with the owner of the key. -/
theorem start_follow_single {call : KeyedCall} {key server : String} (hmatched : call.Matched)
    (hkeys : call.keys = [key])
    (hfollow : ∀ router : Router (StateM (σ × List Exchange)), call.follow router a =
      liftM (Router.ownerOf a key) >>= fun server => call.ask (router.client server))
    (howner : a.serverOf? key = some server) (controller : String) (s : σ)
    (transcript : List Exchange) :
    ∃ exchanges t, InTurn (call.plan a) exchanges ∧
      (call.follow ⟨controller, transport.recorded⟩ a).start (s, transcript) =
        ((exchanges.mapM Exchange.result).map fun responses =>
            ((responses.map call.answer).head?).getD .done,
          t, transcript ++ exchanges) := by
  cases hsend : (transport.send server call.request).start s with
  | mk reply t =>
      let exchange : Exchange := ⟨⟨server, call.request⟩, reply⟩
      refine ⟨[exchange], t, by rw [plan_single hmatched hkeys howner]; exact .single exchange, ?_⟩
      have hask := (Client.exchanges_ask ⟨server, transport.recorded⟩ call).start_eq
        (Transport.start_send_recorded hsend transcript)
      have howns : Router.ownerOf a key = .ok server := by rw [Router.ownerOf, howner]
      rw [hfollow, howns, Call.start_bind_ok (Call.start_liftM _)]
      refine hask.trans ?_
      rw [List.mapM_cons]
      show (exchange.result.map call.answer, _) = _
      cases exchange.result <;> rfl

/-- A call about owned keys sends its plan in turn, and its answer comes from the responses. -/
theorem start_follow {call : KeyedCall} (hmatched : call.Matched)
    (howned : ∀ key ∈ call.keys, (a.serverOf? key).isSome) (controller : String) (s : σ)
    (transcript : List Exchange) :
    ∃ finish exchanges t, InTurn (call.plan a) exchanges ∧
      (call.follow ⟨controller, transport.recorded⟩ a).start (s, transcript) =
        ((exchanges.mapM Exchange.result).map finish, t, transcript ++ exchanges) := by
  cases call with
  | multiGet keys => exact ⟨_, start_follow_multiGet howned controller s transcript⟩
  | multiPut keys values => exact ⟨_, start_follow_multiPut hmatched howned controller s transcript⟩
  | _ =>
      obtain ⟨server, hserver⟩ := Option.isSome_iff_exists.mp (howned _ List.mem_cons_self)
      exact ⟨_, start_follow_single hmatched rfl (fun _ => rfl) hserver controller s transcript⟩

/-! ## The whole of a call -/

section Route

variable {call : KeyedCall} {s u : σ}

/-- A write with another number of values than keys is refused before anything is sent. -/
theorem start_route_multiPut_of_ne {τ : Type} (router : Router (StateM τ))
    {keys values : List String} (h : keys.length ≠ values.length) (s : τ) :
    ((multiPut keys values).route router).start s =
      (.error (.lengthMismatch keys.length values.length), s) := by
  rw [route, Router.multiPut, if_neg h]
  rfl

/-- Without an assignment the query is all that is sent. -/
theorem start_route_of_unassigned (hmatched : call.Matched) {reply : KvResult Response}
    (hsend : (transport.send controller .query).start s = (reply, u))
    (hnone : ∀ a, reply ≠ .ok (.query a)) :
    ∃ reason, (call.route ⟨controller, transport.recorded⟩).start (s, []) =
      (.error (.routing reason), u, [⟨⟨controller, .query⟩, reply⟩]) := by
  obtain ⟨reason, hreason⟩ := Router.exists_queried_eq_routing hnone
  have hquery := Router.start_query_recorded hsend []
  rw [hreason] at hquery
  exact ⟨reason, by rw [route_eq_bind _ hmatched]; exact Call.start_bind_error hquery _⟩

/-- With an assignment, it decides what follows the query. -/
theorem start_route_of_assigned (hmatched : call.Matched)
    (hsend : (transport.send controller .query).start s = (.ok (.query a), u)) :
    (call.route ⟨controller, transport.recorded⟩).start (s, []) =
      (call.follow ⟨controller, transport.recorded⟩ a).start
        (u, [⟨⟨controller, .query⟩, .ok (.query a)⟩]) := by
  rw [route_eq_bind _ hmatched]
  exact Call.start_bind_ok (Router.start_query_recorded hsend []) _

end Route

/-- Against any transport, whatever it replies, a router sends the following for a call, and
nothing else.

A write of several keys with another number of values sends nothing. Every other call first sends
one query, to the controller. If the reply is no assignment, or a key has no owner, this is all,
and the call fails in routing and names the first key without an owner. Otherwise it sends its
plan in turn: one request to each owner of a key, in the ascending order of their names, each
about the keys that the server owns. For a call about one key this is the call itself, sent to
the owner of the key. The call succeeds exactly if all of these requests are answered, and
otherwise fails as the exchange that failed. -/
theorem route_sends_plan {σ : Type} (transport : Transport (StateM σ)) (controller : String)
    (call : KeyedCall) (s : σ) :
    ∃ outcome t transcript,
      (call.route ⟨controller, transport.recorded⟩).start (s, []) = (outcome, t, transcript) ∧
      (∀ keys values, call = .multiPut keys values → keys.length ≠ values.length →
        transcript = [] ∧ outcome = .error (.lengthMismatch keys.length values.length)) ∧
      (call.Matched → ∃ reply exchanges,
        transcript = ⟨⟨controller, .query⟩, reply⟩ :: exchanges ∧
        ((∀ a, reply ≠ .ok (.query a)) →
          exchanges = [] ∧ ∃ reason, outcome = .error (.routing reason)) ∧
        ∀ a, reply = .ok (.query a) →
          (∀ before key after, call.keys = before ++ key :: after →
            (∀ earlier ∈ before, (a.serverOf? earlier).isSome) → a.serverOf? key = none →
              exchanges = [] ∧ outcome = .error (.routing ("no server owns key " ++ key))) ∧
          ((∀ key ∈ call.keys, (a.serverOf? key).isSome) →
            (a.owners call.keys).Pairwise (· < ·) ∧
            (∀ server, server ∈ a.owners call.keys ↔
              ∃ key ∈ call.keys, a.serverOf? key = some server) ∧
            (∀ key server, call.keys = [key] → a.serverOf? key = some server →
              call.plan a = [⟨server, call.request⟩]) ∧
            InTurn (call.plan a) exchanges ∧
            ((∃ answer, outcome = .ok answer) ↔ ∀ exchange ∈ exchanges, exchange.Answered) ∧
            ∀ exchange ∈ exchanges, ∀ error, exchange.result = .error error →
              outcome = .error error)) := by
  by_cases hmatched : call.Matched
  · have hmismatch : ∀ {keys values}, call = .multiPut keys values →
        keys.length = values.length := by
      rintro keys values rfl
      exact hmatched
    obtain ⟨reply, u, hsend⟩ : ∃ reply u, (transport.send controller .query).start s = (reply, u) :=
      ⟨_, _, rfl⟩
    by_cases hassigned : ∃ a, reply = .ok (.query a)
    · obtain ⟨a, rfl⟩ := hassigned
      rw [start_route_of_assigned hmatched hsend]
      by_cases howned : ∀ key ∈ call.keys, (a.serverOf? key).isSome
      · obtain ⟨finish, exchanges, t, hinturn, hfollow⟩ := start_follow hmatched howned controller u
          [⟨⟨controller, .query⟩, .ok (.query a)⟩]
        refine ⟨_, t, _, hfollow, fun _ _ hcall hne => absurd (hmismatch hcall) hne,
          fun _ => ⟨_, exchanges, rfl, fun hnone => absurd rfl (hnone a), ?_⟩⟩
        rintro _ ⟨⟩
        refine ⟨?_, fun _ => ⟨Assignment.pairwise_owners, fun _ => Assignment.mem_owners,
          fun _ _ => plan_single hmatched, hinturn, hinturn.exists_map_eq_ok_iff finish, ?_⟩⟩
        · rintro before key after hkeys - hkey
          have hsome := howned key (by simp [hkeys])
          rw [hkey] at hsome
          cases hsome
        · intro exchange hmem error herror
          rw [hinturn.mapM_result_of_mem hmem herror]
          rfl
      · obtain ⟨before, name, after, hkeys, hbefore, hname⟩ := exists_first_unowned howned
        have hfirst : ∀ {before key after}, call.keys = before ++ key :: after →
            (∀ earlier ∈ before, (a.serverOf? earlier).isSome) → a.serverOf? key = none → _ :=
          fun hkeys hbefore hkey => start_follow_of_unowned
            ⟨controller, transport.recorded⟩ hmatched hkeys hbefore hkey
              (u, [⟨⟨controller, .query⟩, .ok (.query a)⟩])
        refine ⟨_, u, _, hfirst hkeys hbefore hname,
          fun _ _ hcall hne => absurd (hmismatch hcall) hne,
          fun _ => ⟨_, [], rfl, fun hnone => absurd rfl (hnone a), ?_⟩⟩
        rintro _ ⟨⟩
        refine ⟨?_, fun howned' => absurd howned' howned⟩
        -- There is only one outcome, hence only one first key without an owner.
        intro before' key after' hkeys' hbefore' hkey
        have hsame := (hfirst hkeys hbefore hname).symm.trans (hfirst hkeys' hbefore' hkey)
        exact ⟨rfl, (Prod.mk.inj hsame).1⟩
    · have hnone : ∀ a, reply ≠ .ok (.query a) := fun a ha => hassigned ⟨a, ha⟩
      obtain ⟨reason, hstart⟩ := start_route_of_unassigned hmatched hsend hnone
      exact ⟨_, u, _, hstart, fun _ _ hcall hne => absurd (hmismatch hcall) hne,
        fun _ => ⟨reply, [], rfl, fun _ => ⟨rfl, reason, rfl⟩, fun a ha => absurd ha (hnone a)⟩⟩
  · cases call with
    | multiPut keys values =>
        refine ⟨_, s, [], start_route_multiPut_of_ne _ hmatched _, ?_,
          fun hmatched' => absurd hmatched' hmatched⟩
        rintro _ _ ⟨⟩ -
        exact ⟨rfl, rfl⟩
    | _ => exact absurd trivial hmatched

end KeyedCall

end Keyspace
