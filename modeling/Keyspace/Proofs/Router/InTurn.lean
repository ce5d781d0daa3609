/-
# Sending in turn

Requests are sent in turn if each is sent once the one before it was answered, up to the
first that is not. Then every exchange but the last was answered, and if the last one was
answered too, all requests were sent.
-/

import Mathlib
import Keyspace.Proofs.Client.Exchange
import Keyspace.Proofs.Result

namespace Keyspace

/-- The requests of a plan were sent one after another, up to and including the first one whose
exchange failed. -/
inductive InTurn : List Sent → List Exchange → Prop
  | done : InTurn [] []
  | fails {exchange : Exchange} {plan : List Sent} {error : KvError}
      (h : exchange.result = .error error) : InTurn (exchange.sent :: plan) [exchange]
  | goesOn {exchange : Exchange} {plan : List Sent} {exchanges : List Exchange}
      {response : Response} (h : exchange.result = .ok response) (rest : InTurn plan exchanges) :
      InTurn (exchange.sent :: plan) (exchange :: exchanges)

namespace InTurn

variable {plan : List Sent} {exchanges : List Exchange}

/-- A single request is sent in turn. -/
theorem single (exchange : Exchange) : InTurn [exchange.sent] [exchange] := by
  cases h : exchange.result with
  | ok response => exact .goesOn h .done
  | error error => exact .fails h

/-- Nothing is sent that is not in the plan. -/
theorem map_sent_isPrefix (h : InTurn plan exchanges) : exchanges.map (·.sent) <+: plan := by
  induction h with
  | done => exact List.prefix_rfl
  | fails hfails => exact ⟨_, rfl⟩
  | goesOn hok rest ih => exact (List.prefix_cons_inj _).mpr ih

/-- The whole plan is sent if every exchange is answered. -/
theorem map_sent_eq (h : InTurn plan exchanges)
    (hanswered : ∀ exchange ∈ exchanges, exchange.Answered) : exchanges.map (·.sent) = plan := by
  induction h with
  | done => rfl
  | fails hfails =>
      exact absurd (hanswered _ (List.mem_singleton_self _)) (Exchange.not_answered_of_result hfails)
  | goesOn hok rest ih =>
      rw [List.map_cons, ih fun exchange hmem => hanswered _ (List.mem_cons_of_mem _ hmem)]

/-- An exchange that failed is the last one, and the earlier ones were answered. -/
theorem last_of_result_eq_error {before after : List Exchange} {exchange : Exchange}
    {error : KvError} (h : InTurn plan (before ++ exchange :: after))
    (herror : exchange.result = .error error) :
    after = [] ∧ ∀ earlier ∈ before, earlier.Answered := by
  generalize hsplit : before ++ exchange :: after = exchanges at h
  induction h generalizing before with
  | done => simp at hsplit
  | fails hfails =>
      cases before with
      | nil =>
          cases hsplit
          exact ⟨rfl, nofun⟩
      | cons first before => simp at hsplit
  | goesOn hok rest ih =>
      cases before with
      | nil =>
          cases hsplit
          rw [hok] at herror
          cases herror
      | cons first before =>
          obtain ⟨rfl, hrest⟩ := List.cons.inj hsplit
          obtain ⟨hafter, hbefore⟩ := ih hrest
          refine ⟨hafter, List.forall_mem_cons.mpr ⟨?_, hbefore⟩⟩
          exact Exchange.answered_iff_exists_result.mpr ⟨_, hok⟩

/-- An exchange that failed is the only one, and all are worth its failure. -/
theorem mapM_result_of_mem (h : InTurn plan exchanges) {exchange : Exchange}
    (hmem : exchange ∈ exchanges) {error : KvError} (herror : exchange.result = .error error) :
    exchanges.mapM Exchange.result = .error error := by
  induction h with
  | done => cases hmem
  | fails hfails =>
      rw [List.mem_singleton] at hmem
      rw [List.mapM_cons, ← hmem, herror]
      rfl
  | goesOn hok rest ih =>
      rcases List.mem_cons.mp hmem with rfl | hmem
      · rw [hok] at herror
        cases herror
      · rw [List.mapM_cons, hok, ih hmem]
        rfl

/-- All are worth responses exactly if each was answered. -/
theorem exists_mapM_result_iff (h : InTurn plan exchanges) :
    (∃ responses, exchanges.mapM Exchange.result = .ok responses) ↔
      ∀ exchange ∈ exchanges, exchange.Answered := by
  constructor
  · rintro ⟨responses, hresponses⟩ exchange hmem
    rw [Exchange.answered_iff_exists_result]
    cases hresult : exchange.result with
    | ok response => exact ⟨response, rfl⟩
    | error error =>
        rw [h.mapM_result_of_mem hmem hresult] at hresponses
        cases hresponses
  · intro hanswered
    induction h with
    | done => exact ⟨[], rfl⟩
    | fails hfails =>
        exact absurd (hanswered _ (List.mem_singleton_self _))
          (Exchange.not_answered_of_result hfails)
    | goesOn hok rest ih =>
        rw [List.forall_mem_cons] at hanswered
        obtain ⟨responses, hresponses⟩ := ih hanswered.2
        exact ⟨_, by rw [List.mapM_cons, hok, hresponses]; rfl⟩

/-- The whole plan is sent if all are worth responses. -/
theorem map_sent_eq_of_mapM_result (h : InTurn plan exchanges) {responses : List Response}
    (hresponses : exchanges.mapM Exchange.result = .ok responses) :
    exchanges.map (·.sent) = plan :=
  h.map_sent_eq (h.exists_mapM_result_iff.mp ⟨responses, hresponses⟩)

/-- The responses answer the plan, each the request at its place. -/
theorem forall₂_answeredIn (h : InTurn plan exchanges) {responses : List Response}
    (hresponses : exchanges.mapM Exchange.result = .ok responses) :
    List.Forall₂ (AnsweredIn exchanges) plan responses := by
  have hresults := mapM_eq_ok_iff.mp hresponses
  rw [← h.map_sent_eq_of_mapM_result hresponses, List.forall₂_map_left_iff, List.forall₂_iff_zip]
  refine ⟨hresults.length_eq, fun hmem => ?_⟩
  exact .of_result (List.of_mem_zip hmem).1 ((List.forall₂_iff_zip.mp hresults).2 hmem)

/-- Whatever is made of the responses, there is something to make it of exactly if each exchange
was answered. -/
theorem exists_map_eq_ok_iff {α : Type} (h : InTurn plan exchanges) (finish : List Response → α) :
    (∃ value, (exchanges.mapM Exchange.result).map finish = .ok value) ↔
      ∀ exchange ∈ exchanges, exchange.Answered := by
  rw [← h.exists_mapM_result_iff]
  cases exchanges.mapM Exchange.result <;> simp [Except.map]

end InTurn

namespace Router

variable {σ ι β : Type} {transport : Transport (StateM σ)} {items : List ι} {server : ι → String}
  {request : ι → Request} {take : ι → Response → β}

/-- Work that is one exchange for each item sends its requests in turn. Its result comes from the
responses if all requests are answered, and is the failure of the last exchange otherwise. -/
theorem start_mapM_inTurn {work : ι → Call (StateM (σ × List Exchange)) β}
    (h : ∀ item ∈ items, (Client.mk (server item) transport.recorded).Exchanges (work item)
      (request item) (take item)) (s : σ) (transcript : List Exchange) :
    ∃ exchanges t, InTurn (items.map fun item => ⟨server item, request item⟩) exchanges ∧
      (items.mapM work).start (s, transcript) =
        ((exchanges.mapM Exchange.result).map fun responses => List.zipWith take items responses,
          t, transcript ++ exchanges) := by
  induction items generalizing s transcript with
  | nil => exact ⟨[], s, .done, by rw [List.append_nil]; rfl⟩
  | cons item items ih =>
      rw [List.forall_mem_cons] at h
      obtain ⟨hitem, hitems⟩ := h
      cases hsend : (transport.send (server item) (request item)).start s with
      | mk reply t =>
          let exchange : Exchange := ⟨⟨server item, request item⟩, reply⟩
          have hwork : (work item).start (s, transcript) =
              (exchange.result.map (take item), t, transcript ++ [exchange]) :=
            hitem.start_eq (Transport.start_send_recorded hsend transcript)
          rw [List.mapM_cons]
          cases hresult : exchange.result with
          | error error =>
              rw [hresult] at hwork
              refine ⟨[exchange], t, .fails hresult, ?_⟩
              rw [Call.start_bind_error hwork, List.mapM_cons, hresult]
              rfl
          | ok response =>
              rw [hresult] at hwork
              obtain ⟨exchanges, u, hinturn, hrest⟩ := ih hitems t (transcript ++ [exchange])
              refine ⟨exchange :: exchanges, u, .goesOn hresult hinturn, ?_⟩
              rw [Call.start_bind_ok hwork, List.mapM_cons, hresult,
                List.append_cons transcript exchange exchanges]
              cases hresponses : exchanges.mapM Exchange.result with
              | error error =>
                  rw [hresponses] at hrest
                  rw [Call.start_bind_error hrest]
                  rfl
              | ok responses =>
                  rw [hresponses] at hrest
                  rw [Call.start_bind_ok hrest]
                  rfl

end Router

end Keyspace
