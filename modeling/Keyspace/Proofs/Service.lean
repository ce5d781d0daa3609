/-
# What a service answers

A service that is reached answers with the response to what it did, and a refusal is
answered with its report. A transport that conveys requests brings back exactly this and
leaves the service as it then is.
-/

import Mathlib
import Keyspace.Cluster
import Keyspace.Proofs.Store.Action

namespace Keyspace

variable {σ : Type} {s t : σ}

/-- The response that a result travels in. -/
def Response.ofResult : KvResult Response → Response
  | .ok response => response
  | .error refusal => .error (.ofError refusal)

/-- A refusal is turned into a report, and the action goes on. -/
theorem Action.start_reported {action : Action σ Response} {result : KvResult Response}
    (h : action.start s = (result.mapError .refused, t)) :
    action.reported.start s = (.ok (.ofResult result), t) := by
  unfold start at h ⊢
  rw [reported, ExceptT.run_tryCatch, StateT.run_bind, h]
  cases result <;> rfl

/-- An action that ended with a result, or was refused, does so with whatever is made of it. -/
theorem Action.start_map_of_result {α β : Type} {action : Action σ α} {result : KvResult α}
    (h : action.start s = (result.mapError .refused, t)) (f : α → β) :
    (f <$> action).start s = ((result.map f).mapError .refused, t) := by
  rw [start_map, h]
  cases result <;> rfl

/-- A store answers a request with a response of its verb. -/
theorem verb?_of_serveStorage? [KvStore σ] {request : Request} {action : Action σ Response}
    {response : Response} (hserve : serveStorage? request = some action)
    (hstart : action.start s = (.ok response, t)) : response.verb? = some request.verb := by
  cases request with
  | query => cases hserve
  | move destination shards => cases hserve
  | _ =>
      cases hserve
      obtain ⟨value, -, rfl⟩ := Action.exists_of_start_map_ok hstart
      rfl

/-- So does the controller. -/
theorem Controller.verb?_of_serve? {before after : Controller} {request : Request}
    {action : Action Controller Response} {response : Response}
    (hserve : Controller.serve? request = some action)
    (hstart : action.start before = (.ok response, after)) :
    response.verb? = some request.verb := by
  cases request with
  | query | move destination shards =>
      cases hserve
      obtain ⟨value, -, rfl⟩ := Action.exists_of_start_map_ok hstart
      rfl
  | _ => cases hserve

/-! ## Requests for stores -/

/-- The call of a store that a request stands for. -/
def Request.operation? : Request → Option Operation
  | get key => some (.get key)
  | put key value => some (.put key value)
  | append key value => some (.append key value)
  | delete key => some (.delete key)
  | multiGet keys => some (.multiGet keys)
  | multiPut keys values => some (.multiPut keys values)
  | allKeys => some .allKeys
  | query | move _ _ => none

/-- What a response says that a call of a store returned. -/
def Response.answer : Response → Answer
  | get value | delete value => .value value
  | multiGet values => .values values
  | allKeys keys => .keys keys
  | put | append | multiPut | query _ | move | error _ => .done

/-- A store serves a request by the call that the request stands for. -/
theorem exists_serveStorage?_eq [KvStore σ] {request : Request} {operation : Operation}
    (h : request.operation? = some operation) :
    ∃ action : Action σ Response, serveStorage? request = some action ∧
      Response.answer <$> action = operation.perform := by
  cases request with
  | query | move destination shards => cases h
  | _ =>
      cases h
      exact ⟨_, rfl, Functor.map_map _ _ _⟩

/-- As the call ends, so does serving the request, and it leaves the same state behind. -/
theorem exists_start_serveStorage? [KvStore σ] {request : Request} {operation : Operation}
    (hoperation : request.operation? = some operation) {result : KvResult Answer}
    (hstart : operation.perform.start s = (result.mapError .refused, t)) :
    ∃ (action : Action σ Response) (reply : KvResult Response),
      serveStorage? request = some action ∧
      action.start s = (reply.mapError .refused, t) ∧ reply.map Response.answer = result := by
  obtain ⟨action, hserve, hperform⟩ := exists_serveStorage?_eq (σ := σ) hoperation
  rw [← hperform, Action.start_map] at hstart
  obtain ⟨houtcome, rfl⟩ := Prod.mk.inj hstart
  refine ⟨action, ?_⟩
  cases hresponse : (action.start s).1 with
  | ok response =>
      refine ⟨.ok response, hserve, Prod.ext hresponse rfl, ?_⟩
      rw [hresponse] at houtcome
      cases result <;> cases houtcome
      rfl
  | error failure =>
      rw [hresponse] at houtcome
      cases result with
      | ok answer => cases houtcome
      | error error =>
          cases houtcome
          exact ⟨.error error, hserve, Prod.ext hresponse rfl, rfl⟩

/-! ## Services in memory -/

variable [Service σ] {address : String} {request : Request} {action : Action σ Response}
  {result : KvResult Response}

/-- A service in memory answers what it serves. -/
theorem Cluster.exchange_eq (hserve : Service.serve? request = some action)
    (hstart : action.start s = (result.mapError .refused, t)) :
    exchange address request s = (.ok (.ofResult result), t) := by
  rw [exchange, hserve]
  simp only [Action.start_reported hstart]

/-- Requests to a single service, which answers at every address. -/
def Service.transport (σ : Type) [Service σ] : Transport (StateM σ) where
  send address request := ExceptT.mk (Cluster.exchange address request)

/-- A request sent to the address reaches the service, and its answer is brought back. -/
def Transport.Conveys (transport : Transport (StateM σ)) (address : String) (request : Request) :
    Prop :=
  ∀ ⦃action s result t⦄, Service.serve? request = some action →
    action.start s = (result.mapError .refused, t) →
      (transport.send address request).start s = (.ok (.ofResult result), t)

theorem Service.conveys_transport (address : String) (request : Request) :
    (Service.transport σ).Conveys address request :=
  fun _ _ _ _ hserve hstart => Cluster.exchange_eq hserve hstart

end Keyspace
