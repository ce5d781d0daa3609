/-
# Failures retold

A call of a client does to the store what the operation itself would do, and returns the
value that the operation returns. A failure comes back as it is retold by a report: an
absent key is named as it was, but the report of a refused request holds the text of the
failure, which the client takes for its reason. So the reason of a refusal is longer on
the side of the client than it was in the store.
-/

import Mathlib
import Keyspace.Proofs.Client.Exchange
import Keyspace.Proofs.Service
import Keyspace.Proofs.Store.Engine

namespace Keyspace

/-- What a failure becomes in the report of a server. -/
def KvError.retold (server : String) : KvError → KvError
  | notFound key => notFound key
  | validation reason => validation ("validation failed: " ++ reason)
  | other => remote server other.message

/-- A client reads a report as the failure retold, whatever its request was about. -/
theorem ErrorReport.toError_ofError (error : KvError) (server subject : String) :
    (ErrorReport.ofError error).toError server subject = error.retold server := by
  cases error <;> rfl

/-- An exchange with a server that answers with a result comes to this result, with failures
retold. -/
theorem Exchange.result_ofResult {sent : Sent} {result : KvResult Response}
    (hanswers : ∀ response, result = .ok response → sent.request.isAnsweredBy response) :
    (⟨sent, .ok (.ofResult result)⟩ : Exchange).result =
      result.mapError (KvError.retold sent.address) := by
  cases result with
  | ok response => exact if_pos (hanswers response rfl)
  | error error =>
      rw [Response.ofResult, result_reply, if_neg (sent.request.not_isAnsweredBy_error _), failure,
        ErrorReport.toError_ofError]
      rfl

namespace Client

variable {α : Type} {transport : Transport (StateM Engine)} {server : String}
  {request : Request} {engine : Engine}

/-- The call does to the store what the operation does, which is not to crash, and returns what the
operation returns, with failures retold. -/
def Retells (server : String) (engine : Engine) (op : Action Engine α)
    (call : Call (StateM Engine) α) : Prop :=
  ∃ (result : KvResult α) (after : Engine),
    op.start engine = (result.mapError .refused, after) ∧ after.Sound ∧
      call.start engine = (result.mapError (KvError.retold server), after)

/-- A call that is one exchange with a store retells what its operation returns. -/
theorem Exchanges.retells {call : Call (StateM Engine) α} {take : Response → α}
    (h : (Client.mk server transport).Exchanges call request take)
    (hconveys : transport.Conveys server request) {op : Action Engine α} {wrap : α → Response}
    (hserve : serveStorage? request = some (wrap <$> op)) (result : KvResult α) {items : Contents}
    (hends : KvStore.Ends Engine.Sound (op.start engine) (result.mapError .refused) items)
    (htake : ∀ value, take (wrap value) = value)
    (hanswers : ∀ value, result = .ok value → request.isAnsweredBy (wrap value)) :
    Retells server engine op call := by
  refine ⟨result, _, hends.start_eq, hends.sound, ?_⟩
  have hsend := hconveys hserve (Action.start_map_of_result hends.start_eq wrap)
  rw [h.start_eq hsend, Exchange.result_ofResult]
  · cases result with
    | ok value => exact congrArg (fun taken => (Except.ok taken, _)) (htake value)
    | error error => rfl
  · intro response hresponse
    cases result with
    | ok value =>
        cases hresponse
        exact hanswers value rfl
    | error error => cases hresponse

/-- Over a transport that conveys its requests to a sound store, every call of a client does what
the operation does, and returns the same value, the same absent key, or the reason of a refusal
with the text that all refusals start with in front. -/
theorem calls_retell (hconveys : ∀ request, transport.Conveys server request)
    (hsound : engine.Sound) :
    let client : Client (StateM Engine) := ⟨server, transport⟩
    (∀ key, Retells server engine (KvStore.get key) (client.get key)) ∧
    (∀ key value, Retells server engine (KvStore.put key value) (client.put key value)) ∧
    (∀ key value, Retells server engine (KvStore.append key value) (client.append key value)) ∧
    (∀ key, Retells server engine (KvStore.delete key) (client.delete key)) ∧
    (∀ keys, Retells server engine (KvStore.multiGet keys) (client.multiGet keys)) ∧
    (∀ keys values,
      Retells server engine (KvStore.multiPut keys values) (client.multiPut keys values)) ∧
    Retells server engine KvStore.allKeys client.allKeys := by
  intro client
  refine ⟨?get, ?put, ?append, ?delete, ?multiGet, ?multiPut, ?allKeys⟩
  case get =>
    exact fun key => (client.exchanges_get key).retells (hconveys _) rfl _
      (Engine.lawful.get hsound key) (fun _ => rfl) (fun _ _ => rfl)
  case put =>
    exact fun key value => (client.exchanges_put key value).retells (hconveys _) rfl (.ok ())
      (Engine.lawful.put hsound key value) (fun _ => rfl) (fun _ _ => rfl)
  case append =>
    exact fun key value => (client.exchanges_append key value).retells (hconveys _) rfl (.ok ())
      (Engine.lawful.append hsound key value) (fun _ => rfl) (fun _ _ => rfl)
  case delete =>
    exact fun key => (client.exchanges_delete key).retells (hconveys _) rfl _
      (Engine.lawful.delete hsound key) (fun _ => rfl) (fun _ _ => rfl)
  case multiGet =>
    refine fun keys => (client.exchanges_multiGet keys).retells (hconveys _) rfl _
      (Engine.lawful.multiGet hsound keys) (fun _ => rfl) ?_
    intro values hvalues
    exact beq_iff_eq.mpr (length_of_mapM_eq_ok hvalues)
  case multiPut =>
    intro keys values
    have hexchanges := client.exchanges_multiPut keys values
    by_cases hlength : keys.length = values.length
    · exact hexchanges.retells (hconveys _) rfl (.ok ())
        (Engine.lawful.multiPut hsound keys values hlength) (fun _ => rfl) (fun _ _ => rfl)
    · exact hexchanges.retells (hconveys _) rfl
        (.error (.lengthMismatch keys.length values.length))
        (Engine.lawful.multiPut_of_ne hsound keys values hlength) (fun _ => rfl) nofun
  case allKeys =>
    obtain ⟨keys, -, hends⟩ := Engine.lawful.allKeys hsound
    exact client.exchanges_allKeys.retells (hconveys _) rfl (.ok keys) hends
      (fun _ => rfl) (fun _ _ => rfl)

/-- A store in memory is reached at every address. -/
theorem calls_retell_flat :
    let client : Client (StateM Engine) := ⟨"s1", Service.transport Engine⟩
    let engine := Engine.simple FlatStore.empty
    (∀ request, client.transport.Conveys client.server request) ∧ engine.Sound ∧
      (∀ key, Retells "s1" engine (KvStore.get key) (client.get key)) ∧
      ∀ keys values,
        Retells "s1" engine (KvStore.multiPut keys values) (client.multiPut keys values) := by
  intro client engine
  have hconveys : ∀ request, client.transport.Conveys client.server request :=
    Service.conveys_transport client.server
  have hsound : engine.Sound := trivial
  obtain ⟨hget, -, -, -, -, hput, -⟩ := calls_retell hconveys hsound
  exact ⟨hconveys, hsound, hget, hput⟩

/-- The reason of a refusal is not the one that the store gave. -/
theorem multiPut_reason_retold :
    let client : Client (StateM Engine) := ⟨"s1", Service.transport Engine⟩
    let engine := Engine.simple FlatStore.empty
    (KvStore.multiPut ["a"] []).start engine =
        (.error (.refused (.validation "multi_put got 1 keys but 0 values")), engine) ∧
      (client.multiPut ["a"] []).start engine =
        (.error (.validation "validation failed: multi_put got 1 keys but 0 values"), engine) :=
  ⟨rfl, rfl⟩

end Client

end Keyspace
