/-
# HTTP is transparent

A request that is posted to a service, over a network that delivers what is posted, does
there what the call does that it stands for. What the service answers comes back as it
was: the routes, the bodies and the status codes on the two sides fit together.
-/

import Mathlib
import Keyspace.Http.Transport
import Keyspace.Proofs.Controller.Partition
import Keyspace.Proofs.Message.RoundTrip
import Keyspace.Proofs.Service
import Keyspace.Proofs.Store.Engine

namespace Keyspace

/-- The endpoint of a verb is found among the routes of its role. -/
theorem Verb.ofPath?_endpoint (verb : Verb) : ofPath? verb.role verb.endpoint = some verb := by
  cases verb <;> decide

namespace Http

/-! ## The service -/

/-- The target of a posted request is its path. -/
theorem path_ofRequest (request : Request) :
    (HttpRequest.ofRequest request).path = request.verb.endpoint := by
  have hendpoint : ∀ verb : Verb, HttpRequest.path ⟨"POST", verb.endpoint, none, []⟩ =
      verb.endpoint := by
    intro verb
    cases verb <;> decide
  exact hendpoint request.verb

/-- A posted request passes all checks of the servers that it is for, if its body is not too
large. -/
theorem decode_ofRequest {request : Request} (h : request.body.length ≤ bodyLimit) :
    (HttpRequest.ofRequest request).decode request.verb.role = .ok request := by
  have hread := request.decodeFront_body
  rw [HttpRequest.decode, path_ofRequest, Verb.ofPath?_endpoint]
  refine (if_neg (Nat.not_lt_of_ge h)).trans ?_
  simp only [HttpRequest.ofRequest, hread]
  rfl

variable {σ : Type} [Service σ] {s t : σ} {request : Request} {action : Action σ Response}
  {result : KvResult Response}

/-- A request that passes the checks is answered with the response of the service. -/
theorem start_handle_of_decode {arrived : HttpRequest}
    (hdecode : arrived.decode (Service.role σ) = .ok request)
    (hserve : Service.serve? request = some action)
    (hstart : action.start s = (result.mapError .refused, t)) :
    (handle arrived).start s = (.ok (.ofResponse (.ofResult result)), t) := by
  rw [handle, hdecode]
  simp only [hserve]
  rw [Action.start_map, Action.start_reported hstart]
  rfl

/-- A posted request is answered with the response of the service. -/
theorem start_handle_ofRequest (hrole : request.verb.role = Service.role σ)
    (hsize : request.body.length ≤ bodyLimit) (hserve : Service.serve? request = some action)
    (hstart : action.start s = (result.mapError .refused, t)) :
    (handle (HttpRequest.ofRequest request)).start s =
      (.ok (.ofResponse (.ofResult result)), t) :=
  start_handle_of_decode (hrole ▸ decode_ofRequest hsize) hserve hstart

/-! ## The transport -/

/-- A response that is no report travels with status 200. -/
theorem Reply.ofResponse_of_verb? {verb : Verb} {response : Response}
    (h : response.verb? = some verb) : ofResponse response = ⟨200, response.body⟩ := by
  cases response with
  | error report => cases h
  | _ => rfl

/-- The reply that carries a response comes to this response, for whoever asked with the verb that
it answers. -/
theorem outcome_ofResponse (address : String) {verb : Verb} {response : Response}
    (h : response.verb? = some verb) :
    outcome address verb (.ok (.ofResponse response)) = .ok response := by
  have hsuccess : Status.isSuccess 200 = true := rfl
  simp only [outcome, Reply.ofResponse_of_verb? h, if_pos hsuccess, Response.decode_body h]

/-- The reply that carries a report comes to this report, whatever was asked. -/
theorem outcome_ofReport (address : String) (verb : Verb) (report : ErrorReport) :
    outcome address verb (.ok (.ofResponse (.error report))) = .ok (.error report) := by
  have hfailure : ¬ (Status.ofKind report.kind).isSuccess := by
    cases report.kind <;> decide
  have hbody : ErrorReport.form.read.decode (Response.error report).body = .ok report :=
    report.decode_write
  simp only [outcome, Reply.ofResponse, if_neg hfailure, hbody]

/-- The network delivers what is posted to the endpoints of the service at an address: the service
handles it, and its reply comes back as it was. -/
def Network.Delivers (network : Network (StateM σ)) (address : String) : Prop :=
  ∀ (verb : Verb) ⦃body : List UInt8⦄ ⦃s : σ⦄ ⦃reply : Reply⦄ ⦃t : σ⦄,
    (handle ⟨"POST", verb.endpoint, some "application/json", body⟩ : Action σ Reply).start s =
        (.ok reply, t) →
      (network.post (url address verb.endpoint) body).run s = (.ok reply, t)

/-- Over such a network a request reaches the service, and its answer is brought back, if the
request is for services of this role, its body is not too large, and it is answered by a response
of its verb. -/
theorem Network.Delivers.conveys {network : Network (StateM σ)} {address : String}
    (h : network.Delivers address) (hrole : request.verb.role = Service.role σ)
    (hsize : request.body.length ≤ bodyLimit)
    (hkind : ∀ ⦃action : Action σ Response⦄ ⦃s response t⦄, Service.serve? request = some action →
      action.start s = (.ok response, t) → response.verb? = some request.verb) :
    network.transport.Conveys address request := by
  intro action s result t hserve hstart
  have hpost : (network.post (url address request.endpoint) request.body).run s =
      (.ok (.ofResponse (.ofResult result)), t) :=
    h request.verb (start_handle_ofRequest hrole hsize hserve hstart)
  have hsend : (network.transport.send address request).start s =
      (outcome address request.verb (.ok (.ofResponse (.ofResult result))), t) := by
    show ((network.post (url address request.endpoint) request.body >>= fun reply =>
      pure (outcome address request.verb reply)).run s) = _
    rw [StateT.run_bind, hpost]
    rfl
  rw [hsend]
  cases result with
  | ok response => rw [Response.ofResult, outcome_ofResponse address (hkind hserve hstart)]
  | error refusal => rw [Response.ofResult, outcome_ofReport]

/-- A network with nothing on it but one service, at the address. -/
def Network.direct (address : String) : Network (StateM σ) where
  post target body :=
    let here := (url address "").toList
    if here.isPrefixOf target.toList then
      let endpoint := String.ofList (target.toList.drop here.length)
      modifyGet fun state =>
        match (handle ⟨"POST", endpoint, some "application/json", body⟩ : Action σ Reply).start
          state with
        | (.ok reply, state) => (.ok reply, state)
        | (.error _, state) => (.error "connection closed", state)
    else pure (.error (unreachable target))

/-- The URL of an endpoint ends with the endpoint. -/
theorem toList_url (address endpoint : String) :
    (url address endpoint).toList = (url address "").toList ++ endpoint.toList := by
  unfold url
  split_ifs <;> simp

/-- A network that hands what is posted to the service brings its reply back. -/
theorem run_answer {arrived : HttpRequest} {reply : Reply}
    (hstart : (handle arrived : Action σ Reply).start s = (.ok reply, t)) :
    (modifyGet fun state =>
      match (handle arrived : Action σ Reply).start state with
      | (.ok reply, state) => (.ok reply, state)
      | (.error _, state) => (.error "connection closed", state) :
      StateM σ (Except String Reply)).run s = (.ok reply, t) := by
  show (match (handle arrived : Action σ Reply).start s with
    | (.ok reply, state) => (Except.ok reply, state)
    | (.error _, state) => (.error "connection closed", state)) = _
  rw [hstart]

theorem Network.delivers_direct (address : String) :
    (Network.direct address : Network (StateM σ)).Delivers address := by
  intro verb body s reply t hstart
  have hhere : (url address "").toList.isPrefixOf (url address verb.endpoint).toList := by
    rw [toList_url address verb.endpoint, List.isPrefixOf_iff_prefix]
    exact List.prefix_append _ _
  have hendpoint : String.ofList ((url address verb.endpoint).toList.drop
      (url address "").toList.length) = verb.endpoint := by
    rw [toList_url address verb.endpoint, List.drop_left, String.ofList_toList]
  rw [direct]
  simp only [if_pos hhere, hendpoint]
  exact run_answer hstart

/-! ## Transparency -/

/-- Sent to the address, the request does to the service what the direct call does, and is answered
with what that returns: its value, or the report of its refusal. The direct call does not crash.
All this holds from the states that satisfy `Sound` on, if the body is not too large. -/
def Carries {α : Type} (transport : Transport (StateM σ)) (address : String) (Sound : σ → Prop)
    (request : Request) (direct : Action σ α) (wrap : α → Response) : Prop :=
  request.body.length ≤ bodyLimit → ∀ s, Sound s → ∃ (result : KvResult α) (t : σ),
    direct.start s = (result.mapError .refused, t) ∧ Sound t ∧
      (transport.send address request).start s = (.ok (.ofResult (result.map wrap)), t)

theorem Network.Delivers.carries {α : Type} {network : Network (StateM σ)} {address : String}
    (h : network.Delivers address) (hrole : request.verb.role = Service.role σ)
    (hkind : ∀ ⦃action : Action σ Response⦄ ⦃s response t⦄, Service.serve? request = some action →
      action.start s = (.ok response, t) → response.verb? = some request.verb)
    {Sound : σ → Prop} {direct : Action σ α} {wrap : α → Response}
    (hserve : Service.serve? request = some (wrap <$> direct))
    (hdirect : ∀ s, Sound s → ∃ (result : KvResult α) (t : σ),
      direct.start s = (result.mapError .refused, t) ∧ Sound t) :
    Carries network.transport address Sound request direct wrap := by
  intro hsize s hsound
  obtain ⟨result, t, hstart, hafter⟩ := hdirect s hsound
  exact ⟨result, t, hstart, hafter,
    h.conveys hrole hsize hkind hserve (Action.start_map_of_result hstart wrap)⟩

/-- A storage server carries a request that stands for an operation of its store. -/
theorem Network.Delivers.carries_storage {α : Type} {network : Network (StateM Engine)}
    {address : String} (h : network.Delivers address) {direct : Action Engine α}
    {wrap : α → Response} (hserve : serveStorage? request = some (wrap <$> direct))
    (hdirect : ∀ engine, engine.Sound → ∃ (result : KvResult α) (items : Contents),
      KvStore.Ends Engine.Sound (direct.start engine) (result.mapError .refused) items) :
    Carries network.transport address Engine.Sound request direct wrap := by
  have hrole : request.verb.role = .storage :=
    (serveStorage?_isSome request).mp (Option.isSome_iff_exists.mpr ⟨_, hserve⟩)
  refine h.carries hrole (fun _ _ _ _ => verb?_of_serveStorage?) hserve ?_
  intro engine hsound
  obtain ⟨result, items, hends⟩ := hdirect engine hsound
  exact ⟨result, _, hends.start_eq, hends.sound⟩

/-- So does a controller. -/
theorem Network.Delivers.carries_controller {α : Type} {network : Network (StateM Controller)}
    {address : String} (h : network.Delivers address) {direct : Action Controller α}
    {wrap : α → Response} (hserve : Controller.serve? request = some (wrap <$> direct))
    (hdirect : ∀ controller, ∃ (result : KvResult α) (after : Controller),
      direct.start controller = (result.mapError .refused, after)) :
    Carries network.transport address (fun _ => True) request direct wrap := by
  have hrole : request.verb.role = .controller :=
    (Controller.serve?_isSome request).mp (Option.isSome_iff_exists.mpr ⟨_, hserve⟩)
  refine h.carries hrole (fun _ _ _ _ => Controller.verb?_of_serve?) hserve ?_
  intro controller _
  obtain ⟨result, after, hstart⟩ := hdirect controller
  exact ⟨result, after, hstart, trivial⟩

/-- HTTP is transparent. Over networks that deliver what is posted, a storage server of either
engine and a controller carry every request for them whose body is not too large. -/
theorem transparent {stores : Network (StateM Engine)} {controllers : Network (StateM Controller)}
    {server controller : String} (hserver : stores.Delivers server)
    (hcontroller : controllers.Delivers controller) :
    (∀ key, Carries stores.transport server Engine.Sound
      (.get key) (KvStore.get key) .get) ∧
    (∀ key value, Carries stores.transport server Engine.Sound
      (.put key value) (KvStore.put key value) fun _ => .put) ∧
    (∀ key value, Carries stores.transport server Engine.Sound
      (.append key value) (KvStore.append key value) fun _ => .append) ∧
    (∀ key, Carries stores.transport server Engine.Sound
      (.delete key) (KvStore.delete key) .delete) ∧
    (∀ keys, Carries stores.transport server Engine.Sound
      (.multiGet keys) (KvStore.multiGet keys) .multiGet) ∧
    (∀ keys values, Carries stores.transport server Engine.Sound
      (.multiPut keys values) (KvStore.multiPut keys values) fun _ => .multiPut) ∧
    Carries stores.transport server Engine.Sound
      .allKeys KvStore.allKeys .allKeys ∧
    Carries controllers.transport controller (fun _ => True)
      .query Controller.query .query ∧
    (∀ destination shards, Carries controllers.transport controller (fun _ => True)
      (.move destination shards) (Controller.move destination shards) fun _ => .move) := by
  refine ⟨?get, ?put, ?append, ?delete, ?multiGet, ?multiPut, ?allKeys, ?query, ?move⟩
  case get =>
    exact fun key => hserver.carries_storage rfl fun _ hsound =>
      ⟨_, _, Engine.lawful.get hsound key⟩
  case put =>
    exact fun key value => hserver.carries_storage rfl fun _ hsound =>
      ⟨.ok (), _, Engine.lawful.put hsound key value⟩
  case append =>
    exact fun key value => hserver.carries_storage rfl fun _ hsound =>
      ⟨.ok (), _, Engine.lawful.append hsound key value⟩
  case delete =>
    exact fun key => hserver.carries_storage rfl fun _ hsound =>
      ⟨_, _, Engine.lawful.delete hsound key⟩
  case multiGet =>
    exact fun keys => hserver.carries_storage rfl fun _ hsound =>
      ⟨_, _, Engine.lawful.multiGet hsound keys⟩
  case multiPut =>
    refine fun keys values => hserver.carries_storage rfl fun _ hsound => ?_
    by_cases hlength : keys.length = values.length
    · exact ⟨.ok (), _, Engine.lawful.multiPut hsound keys values hlength⟩
    · exact ⟨.error (.lengthMismatch keys.length values.length), _,
        Engine.lawful.multiPut_of_ne hsound keys values hlength⟩
  case allKeys =>
    refine hserver.carries_storage rfl fun _ hsound => ?_
    obtain ⟨keys, -, hends⟩ := Engine.lawful.allKeys hsound
    exact ⟨.ok keys, _, hends⟩
  case query =>
    exact hcontroller.carries_controller rfl fun controller => ⟨.ok controller.current, _, rfl⟩
  case move =>
    refine fun destination shards => hcontroller.carries_controller rfl fun controller => ?_
    have hmove : controller.startMove ⟨destination, shards⟩ = _ := Controller.startMove_eq
    cases hobjection : controller.objection? destination shards with
    | some error =>
        rw [hobjection] at hmove
        exact ⟨.error error, _, hmove⟩
    | none =>
        rw [hobjection] at hmove
        exact ⟨.ok (), _, hmove⟩

/-- Networks with nothing but one service on them deliver what is posted to it. -/
theorem transparent_direct :
    (Network.direct "s1" : Network (StateM Engine)).Delivers "s1" ∧
      (Network.direct "https://ctrl/" : Network (StateM Controller)).Delivers "https://ctrl/" ∧
      (∀ keys values, Carries (Network.direct "s1").transport "s1" Engine.Sound
        (.multiPut keys values) (KvStore.multiPut keys values) fun _ => .multiPut) ∧
      Carries (Network.direct "https://ctrl/").transport "https://ctrl/" (fun _ => True)
        .query Controller.query .query := by
  have hserver : (Network.direct "s1" : Network (StateM Engine)).Delivers "s1" :=
    Network.delivers_direct "s1"
  have hcontroller : (Network.direct "https://ctrl/" : Network (StateM Controller)).Delivers
      "https://ctrl/" := Network.delivers_direct "https://ctrl/"
  obtain ⟨-, -, -, -, -, hput, -, hquery, -⟩ := transparent hserver hcontroller
  exact ⟨hserver, hcontroller, hput, hquery⟩

end Http

end Keyspace
