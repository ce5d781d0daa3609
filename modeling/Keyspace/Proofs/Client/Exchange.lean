/-
# Exchanges

An exchange is a request together with the reply that came back for it. A transport can
be recorded, and then it keeps every exchange that was made through it. What a client
makes of its exchange depends on the exchange alone: either the reply answers the request,
or it stands for a failure.
-/

import Mathlib
import Keyspace.Client
import Keyspace.Proofs.Call
import Keyspace.Proofs.Router.KeyedCall

namespace Keyspace

/-- A request, and what came back for it. -/
structure Exchange where
  sent : Sent
  reply : KvResult Response

/-- The transport with a transcript of all exchanges, in the order in which they were made. -/
def Transport.recorded {σ : Type} (transport : Transport (StateM σ)) :
    Transport (StateM (σ × List Exchange)) where
  send address request := ExceptT.mk fun (state, transcript) =>
    let (reply, state) := (transport.send address request).start state
    (reply, state, transcript ++ [⟨⟨address, request⟩, reply⟩])

/-- A recorded transport brings back what the transport does, and adds the exchange. -/
theorem Transport.start_send_recorded {σ : Type} {transport : Transport (StateM σ)}
    {address : String} {request : Request} {reply : KvResult Response} {s t : σ}
    (h : (transport.send address request).start s = (reply, t)) (transcript : List Exchange) :
    (transport.recorded.send address request).start (s, transcript) =
      (reply, t, transcript ++ [⟨⟨address, request⟩, reply⟩]) :=
  congrArg (fun result : KvResult Response × σ =>
    (result.1, result.2, transcript ++ [Exchange.mk ⟨address, request⟩ result.1])) h

/-- A response answers a request if it is of the same sort. To a read of several keys it must bring
one value for each of them. -/
def Request.isAnsweredBy : Request → Response → Bool
  | .multiGet keys, .multiGet values => values.length == keys.length
  | request, response => response.verb? == some request.verb

/-- A response that answers a request is of its sort. -/
theorem Request.verb?_of_isAnsweredBy {request : Request} {response : Response}
    (h : request.isAnsweredBy response) : response.verb? = some request.verb := by
  cases request <;> cases response <;> first | rfl | cases h

/-- A report answers nothing. -/
theorem Request.not_isAnsweredBy_error (request : Request) (report : ErrorReport) :
    ¬ request.isAnsweredBy (.error report) :=
  fun hanswered => nomatch verb?_of_isAnsweredBy hanswered

/-- A response of the right sort that does not answer its request has a wrong number of values. -/
theorem Request.exists_of_not_isAnsweredBy {request : Request} {response : Response}
    (hverb : response.verb? = some request.verb) (h : ¬ request.isAnsweredBy response) :
    ∃ keys values, request = .multiGet keys ∧ response = .multiGet values ∧
      values.length ≠ keys.length := by
  cases request with
  | multiGet keys =>
      cases response with
      | multiGet values => exact ⟨keys, values, rfl, rfl, by simpa [isAnsweredBy] using h⟩
      | _ => cases hverb
  | _ => exact absurd (beq_iff_eq.mpr hverb) h

/-- The text that names the keys of a request. -/
def Request.subject : Request → String
  | get key | put key _ | append key _ | delete key => key
  | multiGet keys | multiPut keys _ => Client.subjectOf keys
  | allKeys | query | move _ _ => ""

/-- What a failure calls the requests of a verb. -/
def Verb.operation : Verb → String
  | get => "get"
  | put => "put"
  | append => "append"
  | delete => "delete"
  | multiGet => "multi_get"
  | multiPut => "multi_put"
  | allKeys => "all_keys"
  | query => "query"
  | move => "move"

/-- The failure that a report from a server stands for. -/
def ErrorReport.toError (report : ErrorReport) (server subject : String) : KvError :=
  match report.kind with
  | .notFound => .notFound (report.key.getD subject)
  | .validation => .validation report.message
  | .internal => .remote server report.message

/-- The value that a response brings; empty if it brings none. -/
def Response.text : Response → String
  | get value | delete value => value
  | _ => ""

/-- The texts that a response brings, values or keys; none if it brings none. -/
def Response.texts : Response → List String
  | multiGet texts | allKeys texts => texts
  | _ => []

/-- What a call returns of the response that answers it. -/
def KeyedCall.answer : KeyedCall → Response → Answer
  | get _, response | delete _, response => .value response.text
  | multiGet _, response => .values response.texts
  | put _ _, _ | append _ _, _ | multiPut _ _, _ => .done

namespace Exchange

/-- The failure that a response stands for that is no answer: the reported one, a wrong number of
values, or a response of the wrong sort. -/
def failure (sent : Sent) : Response → KvError
  | .error report => report.toError sent.address sent.request.subject
  | .multiGet values =>
    match sent.request with
    | .multiGet keys => .valueCount sent.address values.length keys.length
    | _ =>
      .unexpectedReply sent.address sent.request.verb.operation (Response.multiGet values).inspect
  | response => .unexpectedReply sent.address sent.request.verb.operation response.inspect

/-- What an exchange comes to: the response if it answers the request, and a failure otherwise. -/
def result (exchange : Exchange) : KvResult Response :=
  match exchange.reply with
  | .error error => .error error
  | .ok response =>
    if exchange.sent.request.isAnsweredBy response then .ok response
    else .error (failure exchange.sent response)

/-- The reply is a response that answers the request. -/
def Answered (exchange : Exchange) : Prop :=
  ∃ response, exchange.reply = .ok response ∧ exchange.sent.request.isAnsweredBy response

theorem result_eq_ok_iff {exchange : Exchange} {response : Response} :
    exchange.result = .ok response ↔
      exchange.reply = .ok response ∧ exchange.sent.request.isAnsweredBy response := by
  obtain ⟨sent, reply⟩ := exchange
  cases reply with
  | error error => simp [result]
  | ok other =>
      by_cases hanswered : sent.request.isAnsweredBy other
      · simp only [result, if_pos hanswered, Except.ok.injEq]
        constructor
        · rintro rfl
          exact ⟨rfl, hanswered⟩
        · exact And.left
      · simp only [result, if_neg hanswered, Except.ok.injEq]
        constructor
        · nofun
        · rintro ⟨rfl, hanswered'⟩
          exact absurd hanswered' hanswered

theorem answered_iff_exists_result {exchange : Exchange} :
    exchange.Answered ↔ ∃ response, exchange.result = .ok response := by
  simp only [Answered, result_eq_ok_iff]

theorem not_answered_of_result {exchange : Exchange} {error : KvError}
    (h : exchange.result = .error error) : ¬ exchange.Answered := by
  rw [answered_iff_exists_result, h]
  simp

theorem result_reply {sent : Sent} {response : Response} :
    (⟨sent, .ok response⟩ : Exchange).result =
      if sent.request.isAnsweredBy response then .ok response
      else .error (failure sent response) := rfl

/-- An exchange fails as its reply does, or because the response does not answer the request. -/
theorem result_eq_error_iff {exchange : Exchange} {error : KvError} :
    exchange.result = .error error ↔ exchange.reply = .error error ∨
      ∃ response, exchange.reply = .ok response ∧
        ¬ exchange.sent.request.isAnsweredBy response ∧ failure exchange.sent response = error := by
  obtain ⟨sent, reply⟩ := exchange
  cases reply with
  | error other => simp [result]
  | ok response =>
      rw [result_reply]
      split_ifs with hanswered <;> simp [hanswered]

end Exchange

/-- A request was answered with the response in one of the exchanges. -/
def AnsweredIn (exchanges : List Exchange) (sent : Sent) (response : Response) : Prop :=
  ⟨sent, .ok response⟩ ∈ exchanges ∧ sent.request.isAnsweredBy response

theorem AnsweredIn.of_result {exchanges : List Exchange} {exchange : Exchange} {response : Response}
    (hmem : exchange ∈ exchanges) (h : exchange.result = .ok response) :
    AnsweredIn exchanges exchange.sent response := by
  obtain ⟨sent, reply⟩ := exchange
  obtain ⟨rfl, hanswers⟩ := Exchange.result_eq_ok_iff.mp h
  exact ⟨hmem, hanswers⟩

namespace Client

variable {m : Type → Type} [Monad m] [LawfulMonad m] {σ α β : Type} {request : Request}

/-- The call is one exchange with the server: it sends the request once, leaves behind what that
leaves behind, and ends as the exchange does. `take` is what it returns of an answer. -/
structure Exchanges {m : Type → Type} [Monad m] (client : Client m) (call : Call m α)
    (request : Request) (take : Response → α) : Prop where
  run_eq : ExceptT.run call =
    (fun reply => (⟨⟨client.server, request⟩, reply⟩ : Exchange).result.map take) <$>
      ExceptT.run (client.transport.send client.server request)

theorem Exchanges.start_eq {client : Client (StateM σ)} {call : Call (StateM σ) α}
    {take : Response → α} (h : client.Exchanges call request take) {s t : σ}
    {reply : KvResult Response}
    (hsend : (client.transport.send client.server request).start s = (reply, t)) :
    call.start s = ((⟨⟨client.server, request⟩, reply⟩ : Exchange).result.map take, t) := by
  unfold Call.start at hsend ⊢
  rw [h.run_eq, StateT.run_map, hsend]
  rfl

theorem Exchanges.map {client : Client m} {call : Call m α} {take : Response → α}
    (h : client.Exchanges call request take) (f : α → β) :
    client.Exchanges (f <$> call) request (f ∘ take) := by
  constructor
  rw [ExceptT.run_map, h.run_eq, Functor.map_map]
  congr
  funext reply
  cases (⟨⟨client.server, request⟩, reply⟩ : Exchange).result <;> rfl

/-- Sending a request and reading its answer is one exchange, if the responses that are no answer
are refused as they should be. A report is refused before anything is read. -/
theorem exchanges_call {client : Client m} {read : Response → Call m α} {take : Response → α}
    (hread : ∀ response, response.verb?.isSome → read response =
      if request.isAnsweredBy response then pure (take response)
      else throw (Exchange.failure ⟨client.server, request⟩ response)) :
    client.Exchanges (client.call request request.subject >>= read) request take := by
  constructor
  rw [call, bind_assoc, ExceptT.run_bind, map_eq_pure_bind]
  congr
  funext reply
  cases reply with
  | error error => rfl
  | ok response =>
      rw [Exchange.result_reply]
      cases response with
      | error report =>
          rw [if_neg (request.not_isAnsweredBy_error report)]
          simp only [ExceptT.bind_throw]
          rfl
      | _ =>
          simp only [pure_bind]
          rw [hread _ rfl]
          split_ifs <;> rfl

/-- What a client hands on came over its transport, and is no report. -/
theorem send_of_start_call {client : Client (StateM σ)} {subject : String} {s : σ}
    {response : Response}
    (h : ((client.call request subject).start s).1 = .ok response) :
    ((client.transport.send client.server request).start s).1 = .ok response ∧
      response.verb?.isSome := by
  cases hsend : (client.transport.send client.server request).start s with
  | mk reply t =>
      cases reply with
      | error error =>
          rw [call, Call.start_bind_error hsend] at h
          cases h
      | ok other =>
          rw [call, Call.start_bind_ok hsend] at h
          cases other with
          | error report => cases h
          | _ =>
              cases h
              exact ⟨rfl, rfl⟩

/-! ## The calls -/

variable (client : Client m)

theorem exchanges_get (key : String) :
    client.Exchanges (client.get key) (.get key) Response.text := by
  apply exchanges_call
  intro response hverb
  cases response with
  | error report => cases hverb
  | _ => rfl

theorem exchanges_put (key value : String) :
    client.Exchanges (client.put key value) (.put key value) fun _ => () := by
  apply exchanges_call
  intro response hverb
  cases response with
  | error report => cases hverb
  | _ => rfl

theorem exchanges_append (key value : String) :
    client.Exchanges (client.append key value) (.append key value) fun _ => () := by
  apply exchanges_call
  intro response hverb
  cases response with
  | error report => cases hverb
  | _ => rfl

theorem exchanges_delete (key : String) :
    client.Exchanges (client.delete key) (.delete key) Response.text := by
  apply exchanges_call
  intro response hverb
  cases response with
  | error report => cases hverb
  | _ => rfl

theorem exchanges_multiGet (keys : List String) :
    client.Exchanges (client.multiGet keys) (.multiGet keys) Response.texts := by
  apply exchanges_call
  intro response hverb
  cases response with
  | error report => cases hverb
  | multiGet values =>
      simp only [Request.isAnsweredBy, beq_iff_eq]
      rfl
  | _ => rfl

theorem exchanges_multiPut (keys values : List String) :
    client.Exchanges (client.multiPut keys values) (.multiPut keys values) fun _ => () := by
  apply exchanges_call
  intro response hverb
  cases response with
  | error report => cases hverb
  | _ => rfl

theorem exchanges_allKeys : client.Exchanges client.allKeys .allKeys Response.texts := by
  apply exchanges_call
  intro response hverb
  cases response with
  | error report => cases hverb
  | _ => rfl

/-- Every call of a client is one exchange with its server. -/
theorem exchanges_ask (call : KeyedCall) :
    client.Exchanges (call.ask client) call.request call.answer := by
  cases call with
  | get key => exact (client.exchanges_get key).map _
  | put key value => exact (client.exchanges_put key value).map _
  | append key value => exact (client.exchanges_append key value).map _
  | delete key => exact (client.exchanges_delete key).map _
  | multiGet keys => exact (client.exchanges_multiGet keys).map _
  | multiPut keys values => exact (client.exchanges_multiPut keys values).map _

end Client

end Keyspace
