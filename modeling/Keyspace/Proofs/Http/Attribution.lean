/-
# What an HTTP reply is taken for

Whatever a peer sends, and also if it sends nothing, a request over HTTP comes to one of
four things. A success whose body is read as a response of the request's own sort is that
response. A success whose body is not is the fault of the peer. Any other reply is the
report that its body is read as; and where it is not read as one, or there is no reply at
all, the exchange has failed.

A client of one server therefore never gets a response of another sort. A call returns what
a success brought, and where it fails the reply says why.
-/

import Mathlib
import Keyspace.Http.Transport
import Keyspace.Proofs.Client.Exchange
import Keyspace.Proofs.Json.Reader

namespace Keyspace

open Json (DecodeError)

/-! ## Bodies of responses -/

/-- The body is read as the response, in the form of such responses. -/
def Response.IsReadFrom (body : List UInt8) : Response → Prop
  | get value => getForm.read.decode body = .ok value
  | put => putForm.read.decode body = .ok ()
  | append => appendForm.read.decode body = .ok ()
  | delete value => deleteForm.read.decode body = .ok value
  | multiGet values => multiGetForm.read.decode body = .ok values
  | multiPut => multiPutForm.read.decode body = .ok ()
  | allKeys keys => allKeysForm.read.decode body = .ok keys
  | query assignment => queryForm.read.decode body = .ok assignment
  | move => moveForm.read.decode body = .ok ()
  | error report => ErrorReport.form.read.decode body = .ok report

/-- The body cannot be read in the form of the responses to requests of the verb. -/
def Verb.CannotRead (body : List UInt8) (error : DecodeError) : Verb → Prop
  | get => Response.getForm.read.decode body = .error error
  | put => Response.putForm.read.decode body = .error error
  | append => Response.appendForm.read.decode body = .error error
  | delete => Response.deleteForm.read.decode body = .error error
  | multiGet => Response.multiGetForm.read.decode body = .error error
  | multiPut => Response.multiPutForm.read.decode body = .error error
  | allKeys => Response.allKeysForm.read.decode body = .error error
  | query => Response.queryForm.read.decode body = .error error
  | move => Response.moveForm.read.decode body = .error error

section Bodies

variable {verb : Verb} {body : List UInt8}

/-- What is decoded for a verb are the responses of this verb, each in its form. -/
theorem Response.decode_eq_ok_iff {response : Response} :
    Response.decode verb body = .ok response ↔
      response.verb? = some verb ∧ response.IsReadFrom body := by
  rw [Response.decode]
  constructor
  · intro h
    cases verb <;>
      · rw [Response.read, Json.Reader.decode_map] at h
        obtain ⟨_, hform, rfl⟩ := exists_of_map_eq_ok h
        exact ⟨rfl, hform⟩
  · rintro ⟨hverb, hform⟩
    cases response <;> cases hverb <;>
      · rw [Response.read, Json.Reader.decode_map]
        exact map_eq_ok_iff.mpr ⟨_, hform, rfl⟩

/-- Nothing is decoded if the body cannot be read in this form. -/
theorem Response.decode_eq_error_iff {error : DecodeError} :
    Response.decode verb body = .error error ↔ verb.CannotRead body error := by
  rw [Response.decode]
  cases verb <;>
    · rw [Response.read, Json.Reader.decode_map]
      exact map_eq_error_iff

end Bodies

namespace Http

variable {verb : Verb} {address : String} {received : Except String Reply} {reply : Reply}
  {response : Response} {report : ErrorReport} {error : DecodeError}

/-- The reply is a success whose body is read as this response, which is one to a request of the
verb. -/
structure Reply.Brings (reply : Reply) (verb : Verb) (response : Response) : Prop where
  isSuccess : reply.status.isSuccess
  verb?_eq : response.verb? = some verb
  isReadFrom : response.IsReadFrom reply.body

/-- The reply is a success, but its body cannot be read as a response to a request of the verb. -/
def Reply.Garbles (reply : Reply) (verb : Verb) (error : DecodeError) : Prop :=
  reply.status.isSuccess ∧ verb.CannotRead reply.body error

/-- The reply is no success, and its body is read as this report. -/
def Reply.Reports (reply : Reply) (report : ErrorReport) : Prop :=
  ¬ reply.status.isSuccess ∧ (Response.error report).IsReadFrom reply.body

/-- The reply is no success, and its body cannot be read as a report. -/
def Reply.Refuses (reply : Reply) : Prop :=
  ¬ reply.status.isSuccess ∧ ∃ error, ErrorReport.form.read.decode reply.body = .error error

/-! ## Requests -/

/-- What comes back for a request of the verb, and what the request comes to with it. -/
inductive ComesTo (address : String) (verb : Verb) :
    Except String Reply → KvResult Response → Prop
  | unanswered (reason : String) :
      ComesTo address verb (.error reason) (.error (.transport address reason))
  | brought {reply : Reply} {response : Response} (h : reply.Brings verb response) :
      ComesTo address verb (.ok reply) (.ok response)
  | garbled {reply : Reply} {error : DecodeError} (h : reply.Garbles verb error) :
      ComesTo address verb (.ok reply)
        (.error (.remote address ("malformed response: " ++ error.message)))
  | reported {reply : Reply} {report : ErrorReport} (h : reply.Reports report) :
      ComesTo address verb (.ok reply) (.ok (.error report))
  | refused {reply : Reply} (h : reply.Refuses) :
      ComesTo address verb (.ok reply)
        (.error (.transport address ("unexpected status " ++ reply.status.toText)))

/-- Whatever comes back, a request comes to something with it. -/
theorem comesTo_outcome (address : String) (verb : Verb) (received : Except String Reply) :
    ComesTo address verb received (outcome address verb received) := by
  rcases received with reason | reply
  · exact .unanswered reason
  by_cases hsuccess : reply.status.isSuccess
  · cases hdecode : Response.decode verb reply.body with
    | ok response =>
        simp only [outcome, if_pos hsuccess, hdecode]
        obtain ⟨hverb, hread⟩ := Response.decode_eq_ok_iff.mp hdecode
        exact .brought ⟨hsuccess, hverb, hread⟩
    | error error =>
        simp only [outcome, if_pos hsuccess, hdecode]
        exact .garbled ⟨hsuccess, Response.decode_eq_error_iff.mp hdecode⟩
  · cases hdecode : ErrorReport.form.read.decode reply.body with
    | ok report =>
        simp only [outcome, if_neg hsuccess, hdecode]
        exact .reported ⟨hsuccess, hdecode⟩
    | error error =>
        simp only [outcome, if_neg hsuccess, hdecode]
        exact .refused ⟨hsuccess, error, hdecode⟩

/-- It comes to nothing else. -/
theorem outcome_eq_iff {result : KvResult Response} :
    outcome address verb received = result ↔ ComesTo address verb received result := by
  constructor
  · rintro rfl
    exact comesTo_outcome address verb received
  · intro h
    cases h with
    | unanswered reason => rfl
    | brought h =>
        have hdecode := Response.decode_eq_ok_iff.mpr ⟨h.verb?_eq, h.isReadFrom⟩
        simp only [outcome, if_pos h.isSuccess, hdecode]
    | garbled h =>
        have hdecode := Response.decode_eq_error_iff.mpr h.2
        simp only [outcome, if_pos h.1, hdecode]
    | reported h =>
        obtain ⟨hstatus, hread⟩ := h
        rw [Response.IsReadFrom] at hread
        simp only [outcome, if_neg hstatus, hread]
    | refused h =>
        obtain ⟨hstatus, error, hbody⟩ := h
        simp only [outcome, if_neg hstatus, hbody]

theorem verb?_of_outcome (h : outcome address verb received = .ok response) :
    response.verb? = some verb ∨ ∃ report, response = .error report := by
  rw [outcome_eq_iff] at h
  cases h with
  | brought h => exact .inl h.verb?_eq
  | reported h => exact .inr ⟨_, rfl⟩

theorem outcome_eq_response_iff (hverb : response.verb? = some verb) :
    outcome address verb received = .ok response ↔
      ∃ reply, received = .ok reply ∧ reply.Brings verb response := by
  rw [outcome_eq_iff]
  constructor
  · intro h
    cases h with
    | brought h => exact ⟨_, rfl, h⟩
    | reported h => cases hverb
  · rintro ⟨reply, rfl, h⟩
    exact .brought h

theorem outcome_eq_remote_iff {peer reason : String} :
    outcome address verb received = .error (.remote peer reason) ↔
      peer = address ∧ ∃ reply error, received = .ok reply ∧ reply.Garbles verb error ∧
        reason = "malformed response: " ++ error.message := by
  rw [outcome_eq_iff]
  constructor
  · intro h
    cases h with
    | garbled h => exact ⟨rfl, _, _, rfl, h, rfl⟩
  · rintro ⟨rfl, reply, error, rfl, h, rfl⟩
    exact .garbled h

theorem outcome_eq_report_iff :
    outcome address verb received = .ok (.error report) ↔
      ∃ reply, received = .ok reply ∧ reply.Reports report := by
  rw [outcome_eq_iff]
  constructor
  · intro h
    cases h with
    | brought h => cases h.verb?_eq
    | reported h => exact ⟨_, rfl, h⟩
  · rintro ⟨reply, rfl, h⟩
    exact .reported h

theorem exists_outcome_eq_transport_iff {peer : String} :
    (∃ reason, outcome address verb received = .error (.transport peer reason)) ↔
      peer = address ∧ ∀ reply, received = .ok reply →
        ¬ reply.status.isSuccess ∧ ∀ report, ¬ reply.Reports report := by
  constructor
  · rintro ⟨reason, h⟩
    rw [outcome_eq_iff] at h
    cases h with
    | unanswered reason => exact ⟨rfl, nofun⟩
    | refused h =>
        obtain ⟨hstatus, error, hbody⟩ := h
        refine ⟨rfl, ?_⟩
        rintro _ ⟨⟩
        exact ⟨hstatus, fun report hreport => nomatch hbody.symm.trans hreport.2⟩
  · rintro ⟨rfl, hneither⟩
    have hcomes := comesTo_outcome peer verb received
    generalize outcome peer verb received = result at hcomes ⊢
    cases hcomes with
    | unanswered reason => exact ⟨reason, rfl⟩
    | brought h | garbled h => exact absurd h.1 (hneither _ rfl).1
    | reported h => exact absurd h ((hneither _ rfl).2 _)
    | refused h => exact ⟨_, rfl⟩

/-- What came back for a request of the verb decides which result the request comes to. -/
structure Attributed (address : String) (verb : Verb) (received : Except String Reply)
    (result : KvResult Response) : Prop where
  /-- A response is a report, or of the sort that was asked for. -/
  verb?_eq : ∀ response, result = .ok response →
    response.verb? = some verb ∨ ∃ report, response = .error report
  /-- It is of this sort exactly for a success whose body is decoded as such a response. -/
  response_iff : ∀ response, response.verb? = some verb → (result = .ok response ↔
    ∃ reply, received = .ok reply ∧ reply.Brings verb response)
  /-- The peer is at fault exactly for a success whose body is not. -/
  remote_iff : ∀ peer reason, result = .error (.remote peer reason) ↔
    peer = address ∧ ∃ reply error, received = .ok reply ∧ reply.Garbles verb error ∧
      reason = "malformed response: " ++ error.message
  /-- There is a report exactly for a reply that is no success and whose body is decoded as one. -/
  report_iff : ∀ report, result = .ok (.error report) ↔
    ∃ reply, received = .ok reply ∧ reply.Reports report
  /-- In all other cases, and only then, the exchange failed. -/
  transport_iff : ∀ peer, (∃ reason, result = .error (.transport peer reason)) ↔
    peer = address ∧ ∀ reply, received = .ok reply →
      ¬ reply.status.isSuccess ∧ ∀ report, ¬ reply.Reports report

/-- Whatever came back is taken for what it is. -/
theorem attributed_outcome (address : String) (verb : Verb) (received : Except String Reply) :
    Attributed address verb received (outcome address verb received) where
  verb?_eq _ := verb?_of_outcome
  response_iff _ := outcome_eq_response_iff
  remote_iff _ _ := outcome_eq_remote_iff
  report_iff _ := outcome_eq_report_iff
  transport_iff _ := exists_outcome_eq_transport_iff

/-! ## Calls of a client -/

section Calls

variable {σ α : Type} {network : Network (StateM σ)} {server : String} {request : Request}

/-- What comes back for a request that is posted to an address, and what that leaves behind. -/
def Network.exchange (network : Network (StateM σ)) (address : String) (request : Request) (s : σ) :
    Except String Reply × σ :=
  (network.post (url address request.endpoint) request.body).run s

/-- Sending a request is posting it once. -/
theorem Network.start_send (network : Network (StateM σ)) (address : String) (request : Request)
    (s : σ) : (network.transport.send address request).start s =
      (outcome address request.verb (network.exchange address request s).1,
        (network.exchange address request s).2) := rfl

/-- Why a call of a client fails with what came back for its request. -/
inductive Cause (server : String) (request : Request) : Except String Reply → KvError → Prop
  | unanswered (reason : String) :
      Cause server request (.error reason) (.transport server reason)
  | refused {reply : Reply} (h : reply.Refuses) :
      Cause server request (.ok reply)
        (.transport server ("unexpected status " ++ reply.status.toText))
  | garbled {reply : Reply} {error : DecodeError} (h : reply.Garbles request.verb error) :
      Cause server request (.ok reply)
        (.remote server ("malformed response: " ++ error.message))
  | reported {reply : Reply} {report : ErrorReport} (h : reply.Reports report) :
      Cause server request (.ok reply) (report.toError server request.subject)
  | miscounted {reply : Reply} {keys values : List String} (hrequest : request = .multiGet keys)
      (h : reply.Brings .multiGet (.multiGet values)) (hcount : values.length ≠ keys.length) :
      Cause server request (.ok reply) (.valueCount server values.length keys.length)

/-- Only garbled replies, wrong numbers of values and reports of internal failures are held against
the server. -/
theorem Cause.of_remote {received : Except String Reply} {peer reason : String}
    (h : Cause server request received (.remote peer reason)) :
    peer = server ∧ ∃ reply, received = .ok reply ∧
      ((∃ error, reply.Garbles request.verb error) ∨
        (∃ keys values, request = .multiGet keys ∧ reply.Brings .multiGet (.multiGet values) ∧
          values.length ≠ keys.length) ∨
        ∃ report, reply.Reports report ∧ report.kind = .internal) := by
  generalize herror : KvError.remote peer reason = error at h
  cases h with
  | unanswered reason => cases herror
  | refused h => cases herror
  | garbled h =>
      cases herror
      exact ⟨rfl, _, rfl, .inl ⟨_, h⟩⟩
  | @reported reply report h =>
      obtain ⟨kind, message, key⟩ := report
      cases kind with
      | notFound => cases herror
      | validation => cases herror
      | internal =>
          cases herror
          exact ⟨rfl, _, rfl, .inr (.inr ⟨_, h, rfl⟩)⟩
  | miscounted hrequest h hcount =>
      cases herror
      exact ⟨rfl, _, rfl, .inr (.inl ⟨_, _, hrequest, h, hcount⟩)⟩

/-- How a call of a client goes over a network, whatever comes back. `wrap` makes of what the call
returns the response that it was taken from. -/
structure Explained (network : Network (StateM σ)) (server : String) (request : Request)
    (call : Call (StateM σ) α) (wrap : α → Response) : Prop where
  /-- It posts its request once and leaves behind what that does. -/
  state_eq : ∀ s, (call.start s).2 = (network.exchange server request s).2
  /-- The client never has to turn down a response for being of another sort than was asked for. -/
  expected : ∀ s response,
    (((⟨server, network.transport⟩ : Client (StateM σ)).call request request.subject).start s).1 =
      .ok response → response.verb? = some request.verb
  /-- It returns exactly what a success brought, of which there is the right number of values. -/
  ok_iff : ∀ s value, (call.start s).1 = .ok value ↔
    ∃ reply, (network.exchange server request s).1 = .ok reply ∧
      reply.Brings request.verb (wrap value) ∧ request.isAnsweredBy (wrap value)
  /-- Its failures have one of the causes. -/
  error_iff : ∀ s error, (call.start s).1 = .error error ↔
    Cause server request (network.exchange server request s).1 error
  /-- The server is at fault only for certain replies. -/
  remote : ∀ s peer reason, (call.start s).1 = .error (.remote peer reason) →
    peer = server ∧ ∃ reply, (network.exchange server request s).1 = .ok reply ∧
      ((∃ error, reply.Garbles request.verb error) ∨
        (∃ keys values, request = .multiGet keys ∧ reply.Brings .multiGet (.multiGet values) ∧
          values.length ≠ keys.length) ∨
        ∃ report, reply.Reports report ∧ report.kind = .internal)

/-- The exchange that a client makes of what comes back ends with what a success brought, if that
answers the request. -/
theorem result_eq_ok_iff {received : Except String Reply} {response : Response} :
    (⟨⟨server, request⟩, outcome server request.verb received⟩ : Exchange).result = .ok response ↔
      ∃ reply, received = .ok reply ∧ reply.Brings request.verb response ∧
        request.isAnsweredBy response := by
  rw [Exchange.result_eq_ok_iff]
  constructor
  · rintro ⟨hreply, hanswered⟩
    have hverb := Request.verb?_of_isAnsweredBy hanswered
    obtain ⟨reply, hreceived, hbrings⟩ := (outcome_eq_response_iff hverb).mp hreply
    exact ⟨reply, hreceived, hbrings, hanswered⟩
  · rintro ⟨reply, hreceived, hbrings, hanswered⟩
    exact ⟨(outcome_eq_response_iff hbrings.verb?_eq).mpr ⟨reply, hreceived, hbrings⟩, hanswered⟩

/-- It fails for one of the causes. -/
theorem result_eq_error_iff {received : Except String Reply} {error : KvError} :
    (⟨⟨server, request⟩, outcome server request.verb received⟩ : Exchange).result = .error error ↔
      Cause server request received error := by
  rw [Exchange.result_eq_error_iff]
  constructor
  · rintro (h | ⟨response, h, hanswered, rfl⟩)
    · rw [outcome_eq_iff] at h
      cases h with
      | unanswered reason => exact .unanswered reason
      | garbled h => exact .garbled h
      | refused h => exact .refused h
    · rw [outcome_eq_iff] at h
      cases h with
      | brought h =>
          obtain ⟨keys, values, rfl, rfl, hcount⟩ :=
            Request.exists_of_not_isAnsweredBy h.verb?_eq hanswered
          exact .miscounted rfl h hcount
      | reported h => exact .reported h
  · intro h
    cases h with
    | unanswered reason => exact .inl rfl
    | refused h => exact .inl (outcome_eq_iff.mpr (.refused h))
    | garbled h => exact .inl (outcome_eq_iff.mpr (.garbled h))
    | reported h =>
        exact .inr ⟨_, outcome_eq_iff.mpr (.reported h), request.not_isAnsweredBy_error _, rfl⟩
    | miscounted hrequest h hcount =>
        subst hrequest
        refine .inr ⟨_, outcome_eq_iff.mpr (.brought h), ?_, rfl⟩
        exact fun hanswered => hcount (beq_iff_eq.mp hanswered)

/-- A call that is one exchange with its server is explained by what comes back, if the response
can be told from what is returned of it. -/
theorem explained_of_exchanges {call : Call (StateM σ) α} {take : Response → α}
    {wrap : α → Response}
    (h : (⟨server, network.transport⟩ : Client (StateM σ)).Exchanges call request take)
    (htake : ∀ value, take (wrap value) = value)
    (hwrap : ∀ response, request.isAnsweredBy response → wrap (take response) = response) :
    Explained network server request call wrap := by
  have hstart := fun s => h.start_eq (network.start_send server request s)
  have hfailed : ∀ s error, (call.start s).1 = .error error ↔
      Cause server request (network.exchange server request s).1 error := by
    intro s error
    rw [hstart, ← result_eq_error_iff]
    cases (⟨⟨server, request⟩, _⟩ : Exchange).result <;> simp [Except.map]
  refine ⟨?_, ?_, ?_, hfailed, ?_⟩
  · intro s
    rw [hstart]
  · intro s response hcall
    obtain ⟨hsend, hverb⟩ := Client.send_of_start_call hcall
    rcases verb?_of_outcome hsend with hsort | ⟨report, rfl⟩
    · exact hsort
    · cases hverb
  · intro s value
    rw [hstart]
    constructor
    · intro hreturned
      obtain ⟨response, hresult, rfl⟩ := exists_of_map_eq_ok hreturned
      obtain ⟨reply, hreceived, hbrings, hanswered⟩ := result_eq_ok_iff.mp hresult
      rw [hwrap response hanswered]
      exact ⟨reply, hreceived, hbrings, hanswered⟩
    · intro hbrought
      rw [result_eq_ok_iff.mpr hbrought]
      exact congrArg Except.ok (htake value)
  · intro s peer reason herror
    exact ((hfailed s _).mp herror).of_remote

/-- Whatever a peer sends for a request over HTTP, and also if it sends nothing, the request comes
to what the reply is. So every call of a client returns exactly what a success brought, with one
value for each key that was read; it never has to turn down a response of another sort; and it finds
the server at fault only for a success that cannot be read, for a wrong number of values, and for
the report of an internal failure. -/
theorem replies_attributed (network : Network (StateM σ)) :
    (∀ address request s, Attributed address request.verb (network.exchange address request s).1
      ((network.transport.send address request).start s).1) ∧
    ∀ server, let client : Client (StateM σ) := ⟨server, network.transport⟩
      (∀ key, Explained network server (.get key) (client.get key) .get) ∧
      (∀ key value, Explained network server (.put key value) (client.put key value)
        fun () => .put) ∧
      (∀ key value, Explained network server (.append key value) (client.append key value)
        fun () => .append) ∧
      (∀ key, Explained network server (.delete key) (client.delete key) .delete) ∧
      (∀ keys, Explained network server (.multiGet keys) (client.multiGet keys) .multiGet) ∧
      (∀ keys values, Explained network server (.multiPut keys values)
        (client.multiPut keys values) fun () => .multiPut) ∧
      Explained network server .allKeys client.allKeys .allKeys := by
  refine ⟨fun address request s => attributed_outcome address request.verb _, fun server => ?_⟩
  intro client
  refine ⟨?get, ?put, ?append, ?delete, ?multiGet, ?multiPut, ?allKeys⟩
  case get =>
    refine fun key => explained_of_exchanges (client.exchanges_get key) (fun _ => rfl) ?_
    intro response hanswered
    cases response <;> first | rfl | cases hanswered
  case put =>
    refine fun key value =>
      explained_of_exchanges (client.exchanges_put key value) (fun _ => rfl) ?_
    intro response hanswered
    cases response <;> first | rfl | cases hanswered
  case append =>
    refine fun key value =>
      explained_of_exchanges (client.exchanges_append key value) (fun _ => rfl) ?_
    intro response hanswered
    cases response <;> first | rfl | cases hanswered
  case delete =>
    refine fun key => explained_of_exchanges (client.exchanges_delete key) (fun _ => rfl) ?_
    intro response hanswered
    cases response <;> first | rfl | cases hanswered
  case multiGet =>
    refine fun keys => explained_of_exchanges (client.exchanges_multiGet keys) (fun _ => rfl) ?_
    intro response hanswered
    cases response <;> first | rfl | cases hanswered
  case multiPut =>
    refine fun keys values =>
      explained_of_exchanges (client.exchanges_multiPut keys values) (fun _ => rfl) ?_
    intro response hanswered
    cases response <;> first | rfl | cases hanswered
  case allKeys =>
    refine explained_of_exchanges client.exchanges_allKeys (fun _ => rfl) ?_
    intro response hanswered
    cases response <;> first | rfl | cases hanswered

end Calls

end Http

end Keyspace
