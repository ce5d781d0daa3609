/-
# What is turned away changes nothing

Whatever arrives at a storage server or at the controller, there is a reply, and unless
its status is 200 the state is what it was. A reply of status 200 shows that a request
was posted to one of the endpoints of the server, and that the state is now as the call
leaves it that the request stands for.

Of a body only the JSON text at its front is read; what follows that text is not looked
at.
-/

import Mathlib
import Keyspace.Proofs.Http.Transparency
import Keyspace.Proofs.Store.Operation

namespace Keyspace

open KvStore (contents)

/-- What is read for a verb is a request of this verb. -/
theorem Request.verb_of_decodeFront {verb : Verb} {input : List UInt8} {request : Request}
    (h : (Request.read verb).decodeFront input = .ok request) : request.verb = verb := by
  cases verb <;>
    · rw [Request.read, Json.Reader.decodeFront_map] at h
      obtain ⟨_, -, rfl⟩ := exists_of_map_eq_ok h
      rfl

/-- The calls that only read change nothing. -/
theorem Request.change_of_reads {request : Request} {operation : Operation} {items : Contents}
    (hoperation : request.operation? = some operation)
    (hreads : request.verb ∈ [Verb.get, .multiGet, .allKeys]) : operation.change items = items := by
  cases request with
  | get key | multiGet keys | allKeys =>
      cases hoperation
      rfl
  | _ => simp [Request.verb] at hreads

namespace Http

variable {role : Verb.Role} {arrived : HttpRequest} {asked : Request}

/-- What arrived asks for a request: it was posted to its endpoint as JSON and is not too large, and
the request is read from the front of its body. -/
structure HttpRequest.Asks (arrived : HttpRequest) (asked : Request) : Prop where
  method_eq : arrived.method = "POST"
  path_eq : arrived.path = asked.endpoint
  json : arrived.contentType.any isJson
  size_le : arrived.body.length ≤ bodyLimit
  read_eq : (Request.read asked.verb).decodeFront arrived.body = .ok asked

/-- Of the checks, the first that fails decides the status. -/
theorem decode_of_path {verb : Verb} (hpath : Verb.ofPath? role arrived.path = some verb) :
    arrived.decode role =
      if arrived.method ≠ "POST" then .error 405
      else if !arrived.contentType.any isJson then .error 415
      else if bodyLimit < arrived.body.length then .error 413
      else
        match (Request.read verb).decodeFront arrived.body with
        | .ok asked => .ok asked
        | .error (.unsuitable _) => .error 422
        | .error _ => .error 400 := by
  rw [HttpRequest.decode, hpath]
  rfl

/-- What arrives asks for a request of the role, or it is turned away with a status that is not
200. -/
theorem decode_cases (role : Verb.Role) (arrived : HttpRequest) :
    (∃ asked, arrived.decode role = .ok asked ∧ asked.verb.role = role ∧ arrived.Asks asked) ∨
      ∃ status, arrived.decode role = .error status ∧ status ≠ 200 := by
  cases hpath : Verb.ofPath? role arrived.path with
  | none =>
      refine .inr ⟨404, ?_, by decide⟩
      rw [HttpRequest.decode, hpath]
      rfl
  | some verb =>
      obtain ⟨hrole, hendpoint⟩ : verb.role = role ∧ verb.endpoint = arrived.path := by
        simpa using List.find?_some hpath
      rw [decode_of_path hpath]
      split_ifs with hmethod hjson hsize
      · exact .inr ⟨405, rfl, by decide⟩
      · exact .inr ⟨415, rfl, by decide⟩
      · exact .inr ⟨413, rfl, by decide⟩
      · cases hread : (Request.read verb).decodeFront arrived.body with
        | error error => cases error <;> exact .inr ⟨_, rfl, by decide⟩
        | ok asked =>
            obtain rfl := Request.verb_of_decodeFront hread
            exact .inl ⟨asked, rfl, hrole, not_not.mp hmethod, hendpoint.symm, by simpa using hjson,
              Nat.le_of_not_lt hsize, hread⟩

/-- What is turned away is answered with its status, and the service never hears of it. -/
theorem start_handle_of_rejected {σ : Type} [Service σ] {s : σ} {status : Status}
    (hdecode : arrived.decode (Service.role σ) = .error status) :
    (handle arrived).start s = (.ok ⟨status, []⟩, s) := by
  rw [handle, hdecode]
  rfl

/-- A refusal is answered with another status than 200. -/
theorem status_ofResult_error (error : KvError) :
    (Reply.ofResponse (.ofResult (.error error))).status ≠ 200 := by
  show Status.ofKind (ErrorReport.ofError error).kind ≠ 200
  cases (ErrorReport.ofError error).kind <;> decide

/-! ## Storage servers -/

/-- What a storage server has done with what arrived. Unless the status of the reply is 200 the
contents are what they were. With status 200 a call was asked for, and it was performed; if it only
reads, the contents are what they were then, too. -/
structure ServedByStore (arrived : HttpRequest) (engine : Engine) (reply : Reply)
    (after : Engine) : Prop where
  sound : after.Sound
  rejected : reply.status ≠ 200 → contents after = contents engine
  performed : reply.status = 200 → ∃ asked operation answer, arrived.Asks asked ∧
    asked.operation? = some operation ∧ operation.perform.start engine = (.ok answer, after) ∧
      (asked.verb ∈ [Verb.get, .multiGet, .allKeys] → contents after = contents engine)

/-- A storage server replies to whatever arrives. -/
theorem exists_servedByStore {engine : Engine} (hsound : engine.Sound) (arrived : HttpRequest) :
    ∃ reply after, (handle arrived).start engine = (.ok reply, after) ∧
      ServedByStore arrived engine reply after := by
  rcases decode_cases .storage arrived with
    ⟨asked, hdecode, hrole, hasks⟩ | ⟨status, hdecode, hstatus⟩
  · obtain ⟨operation, hoperation⟩ : ∃ operation, asked.operation? = some operation := by
      cases asked with
      | query | move destination shards => cases hrole
      | _ => exact ⟨_, rfl⟩
    obtain ⟨result, hends, hrefused⟩ := Engine.lawful.ends_perform hsound operation
    obtain ⟨action, reply, hserve, hstart, rfl⟩ :=
      exists_start_serveStorage? hoperation hends.start_eq
    refine ⟨_, _, start_handle_of_decode hdecode hserve hstart, hends.sound, ?_, ?_⟩
    · intro hstatus
      rw [hends.contents_eq]
      cases reply with
      | ok response =>
          have hreply := Reply.ofResponse_of_verb? (verb?_of_serveStorage? hserve hstart)
          exact absurd (congrArg Reply.status hreply) hstatus
      | error error => exact hrefused error rfl
    · intro hstatus
      cases reply with
      | error error => exact absurd hstatus (status_ofResult_error error)
      | ok response =>
          refine ⟨asked, operation, response.answer, hasks, hoperation, hends.start_eq, ?_⟩
          intro hreads
          rw [hends.contents_eq, Request.change_of_reads hoperation hreads]
  · exact ⟨⟨status, []⟩, engine, start_handle_of_rejected hdecode, hsound, fun _ => rfl,
      fun h => absurd h hstatus⟩

/-! ## The controller -/

/-- What the controller has done with what arrived. Unless the status of the reply is 200 it is what
it was. With status 200 it was queried, and is what it was, or a move was asked for and made. -/
structure ServedByController (arrived : HttpRequest) (controller : Controller) (reply : Reply)
    (after : Controller) : Prop where
  rejected : reply.status ≠ 200 → after = controller
  performed : reply.status = 200 → ∃ asked, arrived.Asks asked ∧
    (asked = .query ∧ after = controller ∨ ∃ destination shards,
      asked = .move destination shards ∧
        (Controller.move destination shards).start controller = (.ok (), after))

/-- The controller replies to whatever arrives. -/
theorem exists_servedByController (controller : Controller) (arrived : HttpRequest) :
    ∃ reply after, (handle arrived).start controller = (.ok reply, after) ∧
      ServedByController arrived controller reply after := by
  rcases decode_cases .controller arrived with
    ⟨asked, hdecode, hrole, hasks⟩ | ⟨status, hdecode, hstatus⟩
  · cases asked with
    | query =>
        have hquery : Controller.query.start controller =
            (Except.mapError .refused (.ok controller.current), controller) := rfl
        refine ⟨_, _, start_handle_of_decode hdecode rfl
          (Action.start_map_of_result hquery Response.query), fun _ => rfl, fun _ =>
            ⟨_, hasks, .inl ⟨rfl, rfl⟩⟩⟩
    | move destination shards =>
        by_cases haccepted : (Move.mk destination shards).Accepted controller.current.names
        · have hmove := Controller.startMove_of_accepted haccepted
          have hstart : (Controller.move destination shards).start controller =
              (Except.mapError .refused (.ok ()), _) := hmove
          exact ⟨_, _, start_handle_of_decode hdecode rfl (Action.start_map_of_result hstart _),
            fun h => absurd rfl h, fun _ => ⟨_, hasks, .inr ⟨destination, shards, rfl, hmove⟩⟩⟩
        · obtain ⟨error, hrefused⟩ := Controller.startMove_of_not_accepted haccepted
          have hstart : (Controller.move destination shards).start controller =
              (Except.mapError .refused (.error error), _) := hrefused
          exact ⟨_, _, start_handle_of_decode hdecode rfl (Action.start_map_of_result hstart _),
            fun _ => rfl, fun h => absurd h (status_ofResult_error error)⟩
    | _ => cases hrole
  · exact ⟨⟨status, []⟩, controller, start_handle_of_rejected hdecode, fun _ => rfl,
      fun h => absurd h hstatus⟩

/-! ## Both -/

/-- Whatever arrives at a storage server of either engine, or at the controller, there is a reply,
and nothing has changed unless its status is 200. With status 200 the server was asked, by a POST
to one of its endpoints whose body begins with a JSON text of that endpoint, for the call that it
then performed; and the calls that only read have changed nothing. -/
theorem rejected_changes_nothing (arrived : HttpRequest) :
    (∀ engine : Engine, engine.Sound → ∃ reply after,
      (handle arrived).start engine = (.ok reply, after) ∧
        ServedByStore arrived engine reply after) ∧
    ∀ controller : Controller, ∃ reply after,
      (handle arrived).start controller = (.ok reply, after) ∧
        ServedByController arrived controller reply after :=
  ⟨fun _ hsound => exists_servedByStore hsound arrived, fun controller =>
    exists_servedByController controller arrived⟩

/-- A write whose values do not match its keys, on two buckets. -/
theorem rejected_changes_nothing_mismatch :
    let engine := Engine.striped ⟨fun _ => 7, Array.replicate 2 ⟨∅, .free⟩⟩
    let arrived := HttpRequest.ofRequest (.multiPut ["a", "b"] ["1"])
    engine.Sound ∧ ∃ (reply : Reply) (after : Engine),
      (handle arrived).start engine = (.ok reply, after) ∧ reply.status = 400 ∧
        contents after = contents engine := by
  intro engine arrived
  have hfresh : engine.Fresh :=
    .striped (show BucketStore.ofCount (fun _ => 7) 2 = .ok _ from rfl)
  have hsound := hfresh.sound_and_empty.1
  have hstatus : ((handle arrived).start engine).1.map Reply.status = .ok 400 := by
    decide +kernel
  obtain ⟨reply, after, hstart, hserved⟩ := (rejected_changes_nothing arrived).1 engine hsound
  rw [hstart] at hstatus
  have hstatus : reply.status = 400 := Except.ok.inj hstatus
  exact ⟨hsound, reply, after, hstart, hstatus, hserved.rejected (by rw [hstatus]; decide)⟩

/-- What stands behind the JSON text of a body is not looked at. A body that is no JSON as a whole
is served all the same. -/
theorem served_despite_trailing_bytes :
    let body := Json.utf8 "\x7b\"key\":\"a\",\"value\":\"1\"\x7d\x7d"
    let started := (handle ⟨"POST", "/kv/put", some "application/json", body⟩).start
      (Engine.simple FlatStore.empty)
    (Request.read .put).decode body = .error .malformed ∧
      started.1.map Reply.status = .ok 200 ∧ (contents started.2)["a"]? = some "1" := by
  refine ⟨rfl, ?_, ?_⟩ <;> decide +kernel

end Http

end Keyspace
