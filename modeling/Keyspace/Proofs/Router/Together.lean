/-
# Waiting together

Where replies may be put off, a router polls for all that it waits for in rounds. A round polls
for every response that is still missing, in the order of the plan, and adds those that are
there. The first failure ends it, and the waiting with it.

The responses that were found are those of the exchanges that the polls completed, one for
each request. This holds initially, a round keeps it, and so it holds after any number of them.
-/

import Mathlib
import Keyspace.Proofs.Attempt
import Keyspace.Proofs.Router.Discipline

namespace Keyspace

/-- A poll for the reply to a request, with the reply if it was there. -/
structure Poll where
  sent : Sent
  reply? : Option (KvResult Response)

/-- The exchange that a poll completes. -/
def Poll.exchange? (poll : Poll) : Option Exchange :=
  poll.reply?.map fun reply => ⟨poll.sent, reply⟩

/-- The exchanges that polls complete, in the order in which they do. -/
def exchangesOf (polls : List Poll) : List Exchange := polls.filterMap Poll.exchange?

/-- The poll that completes an exchange. -/
def Exchange.poll (exchange : Exchange) : Poll := ⟨exchange.sent, some exchange.reply⟩

@[simp]
theorem exchangesOf_nil : exchangesOf [] = [] := rfl

@[simp]
theorem exchangesOf_append (polls later : List Poll) :
    exchangesOf (polls ++ later) = exchangesOf polls ++ exchangesOf later :=
  List.filterMap_append

@[simp]
theorem exchangesOf_cons_poll (exchange : Exchange) (polls : List Poll) :
    exchangesOf (exchange.poll :: polls) = exchange :: exchangesOf polls := rfl

@[simp]
theorem exchangesOf_cons_none (sent : Sent) (polls : List Poll) :
    exchangesOf (⟨sent, none⟩ :: polls) = exchangesOf polls := rfl

/-- A request that is waited for, with the response that answers it once that is there. -/
structure Wanted where
  sent : Sent
  response? : Option Response

/-- The exchanges of what was found. -/
def found (wanted : List Wanted) : List Exchange :=
  wanted.filterMap fun want => want.response?.map fun response => ⟨want.sent, .ok response⟩

/-- The requests of a plan, of which nothing was found yet. -/
def missing (plan : List Sent) : List Wanted := plan.map fun sent => ⟨sent, none⟩

/-- A round of polls that nothing failed in: every response that is missing was polled for, in
order, and is there now if its exchange was completed. -/
inductive Round : List Wanted → List Poll → List Wanted → Prop
  | done : Round [] [] []
  | had {sent : Sent} {response : Response} {wanted later : List Wanted} {polls : List Poll}
      (rest : Round wanted polls later) :
      Round (⟨sent, some response⟩ :: wanted) polls (⟨sent, some response⟩ :: later)
  | putOff {sent : Sent} {wanted later : List Wanted} {polls : List Poll}
      (rest : Round wanted polls later) :
      Round (⟨sent, none⟩ :: wanted) (⟨sent, none⟩ :: polls) (⟨sent, none⟩ :: later)
  | answered {exchange : Exchange} {response : Response} {wanted later : List Wanted}
      {polls : List Poll} (h : exchange.result = .ok response) (rest : Round wanted polls later) :
      Round (⟨exchange.sent, none⟩ :: wanted) (exchange.poll :: polls)
        (⟨exchange.sent, some response⟩ :: later)

namespace Round

variable {wanted later : List Wanted} {polls : List Poll}

theorem map_sent_eq (h : Round wanted polls later) :
    later.map (·.sent) = wanted.map (·.sent) := by
  induction h with
  | done => rfl
  | had rest ih => exact congrArg (_ :: ·) ih
  | putOff rest ih => exact congrArg (_ :: ·) ih
  | answered hok rest ih => exact congrArg (_ :: ·) ih

/-- All exchanges of the round were answered. -/
theorem answered_of_mem (h : Round wanted polls later) {exchange : Exchange}
    (hmem : exchange ∈ exchangesOf polls) : exchange.Answered := by
  induction h with
  | done => cases hmem
  | had rest ih => exact ih hmem
  | putOff rest ih => exact ih hmem
  | answered hok rest ih =>
      rcases List.mem_cons.mp hmem with rfl | hmem
      · exact Exchange.answered_iff_exists_result.mpr ⟨_, hok⟩
      · exact ih hmem

/-- A round adds its exchanges to what was found. -/
theorem found_perm (h : Round wanted polls later) :
    (found later).Perm (found wanted ++ exchangesOf polls) := by
  induction h with
  | done => exact List.Perm.refl _
  | had rest ih => exact ih.cons _
  | putOff rest ih => exact ih
  | @answered exchange response wanted later polls hok rest ih =>
      obtain ⟨sent, reply⟩ := exchange
      obtain ⟨rfl, -⟩ := Exchange.result_eq_ok_iff.mp hok
      exact (ih.cons _).trans List.perm_middle.symm

end Round

/-- Rounds of polls that nothing failed in. -/
inductive Rounds : List Wanted → List Poll → List Wanted → Prop
  | none {wanted : List Wanted} : Rounds wanted [] wanted
  | more {wanted later last : List Wanted} {polls morePolls : List Poll}
      (h : Round wanted polls later) (rest : Rounds later morePolls last) :
      Rounds wanted (polls ++ morePolls) last

namespace Rounds

variable {wanted later : List Wanted} {polls : List Poll}

theorem map_sent_eq (h : Rounds wanted polls later) :
    later.map (·.sent) = wanted.map (·.sent) := by
  induction h with
  | none => rfl
  | more hround rest ih => exact ih.trans hround.map_sent_eq

theorem answered_of_mem (h : Rounds wanted polls later) {exchange : Exchange}
    (hmem : exchange ∈ exchangesOf polls) : exchange.Answered := by
  induction h with
  | none => cases hmem
  | more hround rest ih =>
      rw [exchangesOf_append, List.mem_append] at hmem
      rcases hmem with hmem | hmem
      · exact hround.answered_of_mem hmem
      · exact ih hmem

/-- What was found after any number of rounds are their exchanges. -/
theorem found_perm (h : Rounds wanted polls later) :
    (found later).Perm (found wanted ++ exchangesOf polls) := by
  induction h with
  | none => rw [exchangesOf, List.filterMap_nil, List.append_nil]
  | more hround rest ih =>
      rw [exchangesOf_append, ← List.append_assoc]
      exact ih.trans (hround.found_perm.append_right _)

end Rounds

/-! ## The whole of the waiting -/

/-- How the waiting for several responses goes, and what it comes to. -/
inductive Together (wanted : List Wanted) : List Poll → Option (KvResult (List Response)) → Prop
  /-- All responses were found. -/
  | complete {polls : List Poll} {later : List Wanted} {responses : List Response}
      (h : Rounds wanted polls later) (hall : later.mapM Wanted.response? = some responses) :
      Together wanted polls (some (.ok responses))
  /-- There was no more patience for a response that is missing. -/
  | waiting {polls : List Poll} {later : List Wanted} {want : Wanted}
      (h : Rounds wanted polls later) (hmem : want ∈ later) (hmissing : want.response? = none) :
      Together wanted polls none
  /-- The last round ended with an exchange that failed. -/
  | fails {polls last : List Poll} {before found after : List Wanted} {exchange : Exchange}
      {error : KvError} (h : Rounds wanted polls (before ++ ⟨exchange.sent, none⟩ :: after))
      (hlast : Round before last found) (herror : exchange.result = .error error) :
      Together wanted (polls ++ (last ++ [exchange.poll])) (some (.error error))

/-- A round may come before the rest of the waiting. -/
theorem Together.more {wanted later : List Wanted} {polls morePolls : List Poll}
    {outcome : Option (KvResult (List Response))} (h : Round wanted polls later)
    (rest : Together later morePolls outcome) : Together wanted (polls ++ morePolls) outcome := by
  cases rest with
  | complete hrounds hall => exact .complete (.more h hrounds) hall
  | waiting hrounds hmem hmissing => exact .waiting (.more h hrounds) hmem hmissing
  | fails hrounds hlast herror =>
      rw [← List.append_assoc]
      exact .fails (.more h hrounds) hlast herror

section Start

variable {σ ι β : Type} {transport : Transport (OptionT (StateM σ))} {server : ι → String}
  {request : ι → Request} {take : ι → Response → β}
  {work : ι → Attempt (StateM (σ × List Poll)) β}

end Start

/-! ## What the exchanges were -/

@[simp]
theorem found_missing (plan : List Sent) : found (missing plan) = [] := by
  induction plan with
  | nil => rfl
  | cons sent plan ih => exact ih

theorem map_sent_missing (plan : List Sent) : (missing plan).map (·.sent) = plan := by
  rw [missing, List.map_map]
  exact List.map_id _

theorem forall₂_of_mapM {wanted : List Wanted} {responses : List Response}
    (h : wanted.mapM Wanted.response? = some responses) :
    List.Forall₂ (fun want response => want.response? = some response) wanted responses := by
  induction wanted generalizing responses with
  | nil =>
      cases h
      exact .nil
  | cons want wanted ih =>
      rw [List.mapM_cons] at h
      obtain ⟨response, hresponse, h⟩ := Option.bind_eq_some_iff.mp h
      obtain ⟨rest, hrest, h⟩ := Option.bind_eq_some_iff.mp h
      cases h
      exact .cons hresponse (ih hrest)

/-- If all responses were found, there is one for each request. -/
theorem map_sent_found_of_forall₂ {wanted : List Wanted} {responses : List Response}
    (h : List.Forall₂ (fun want response => want.response? = some response) wanted responses) :
    (found wanted).map (·.sent) = wanted.map (·.sent) := by
  induction h with
  | nil => rfl
  | @cons want response wanted responses hwant rest ih =>
      rw [found, List.filterMap_cons_some (by rw [hwant]; rfl), List.map_cons, List.map_cons]
      exact congrArg _ ih

theorem Rounds.found_perm_of_missing {plan : List Sent} {polls : List Poll} {later : List Wanted}
    (h : Rounds (missing plan) polls later) : (found later).Perm (exchangesOf polls) := by
  simpa using h.found_perm

namespace Together

variable {plan : List Sent} {polls : List Poll} {outcome : Option (KvResult (List Response))}

/-- If all responses came, each is that of an exchange, and all requests were exchanged. -/
theorem forall₂_answeredIn {responses : List Response}
    (h : Together (missing plan) polls (some (.ok responses))) :
    List.Forall₂ (AnsweredIn (exchangesOf polls)) plan responses ∧
      ((exchangesOf polls).map (·.sent)).Perm plan := by
  cases h with
  | @complete _ later _ h hall =>
      have hfound := forall₂_of_mapM hall
      have hplan : later.map (·.sent) = plan := by rw [h.map_sent_eq, map_sent_missing]
      constructor
      · rw [← hplan, List.forall₂_map_left_iff, List.forall₂_iff_zip]
        refine ⟨hfound.length_eq, ?_⟩
        intro want response hmem
        have hresponse := (List.forall₂_iff_zip.mp hfound).2 hmem
        have hexchange : ⟨want.sent, .ok response⟩ ∈ exchangesOf _ :=
          h.found_perm_of_missing.mem_iff.mp
            (List.mem_filterMap.mpr ⟨want, (List.of_mem_zip hmem).1, by rw [hresponse]; rfl⟩)
        obtain ⟨_, ⟨⟩, hanswers⟩ := h.answered_of_mem hexchange
        exact ⟨hexchange, hanswers⟩
      · rw [← hplan, ← map_sent_found_of_forall₂ hfound]
        exact h.found_perm_of_missing.symm.map _

end Together

/-! ## The query -/

namespace Router

variable {σ : Type} {transport : Transport (OptionT (StateM σ))} {controller : String}

end Router

end Keyspace
