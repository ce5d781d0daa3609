/-
# Patience

Over a transport that never puts off a reply, a single poll is enough, and what is waited for
together is what is done in turn. Over any other the patience decides whether there is an
outcome, but not which one.
-/

import Mathlib
import Keyspace.Proofs.Attempt
import Keyspace.Proofs.Router.Discipline

namespace Keyspace

section Prompt

variable {m : Type → Type} [Monad m] [LawfulMonad m] {α : Type}

/-- A call that is one exchange never waits, if the transport does not. -/
theorem Client.Exchanges.eq_prompt {server : String} {transport : Transport m} {request : Request}
    {take : Response → α} {call : Call m α} {attempt : Attempt m α}
    (h : (Client.mk server transport).Exchanges call request take)
    (hattempt : (Client.mk server transport.prompt).Exchanges attempt request take) :
    attempt = call.prompt := by
  apply ExceptT.ext
  rw [hattempt.run_eq, Call.prompt, ExceptT.run_mk, h.run_eq]
  exact (monadLift_map (m := m) (n := OptionT m) _ _).symm

namespace Router

variable (transport : Transport m) (controller : String)

theorem query_prompt :
    (Router.mk controller transport.prompt).query =
      (Router.mk controller transport).query.prompt := by
  apply ExceptT.ext
  rw [run_query, Call.prompt, ExceptT.run_mk, run_query]
  exact (monadLift_map (m := m) (n := OptionT m) _ _).symm

theorem writeBatch_prompt (batch : Batch (String × String)) :
    (Router.mk controller transport.prompt).writeBatch batch =
      ((Router.mk controller transport).writeBatch batch).prompt :=
  (exchanges_writeBatch ⟨controller, transport⟩ batch).eq_prompt
    (exchanges_writeBatch ⟨controller, transport.prompt⟩ batch)

/-- Where every reply is there at once, batches that are written together are written in turn. -/
theorem multiPutWithin_prompt (patience : Nat) (keys values : List String) :
    multiPutWithin (patience + 1) ⟨controller, transport.prompt⟩ keys values =
      (multiPut ⟨controller, transport⟩ keys values).prompt := by
  rw [multiPutWithin, multiPut, funext (writeBatch_prompt transport controller)]
  split_ifs with hlength
  · simp only [Call.prompt_bind, Call.prompt_liftM, Call.forM_eq_map_mapM, Call.prompt_map,
      query_prompt, Attempt.await_prompt, Attempt.joinAll_prompt]
    rfl
  · exact (Call.prompt_throw _).symm

end Router

end Prompt

namespace Router

variable {σ : Type} (router : Router (OptionT (StateM σ)))

/-- Once a read of several keys has an outcome, more patience makes no difference. -/
theorem settles_multiGetWithin (keys : List String) :
    Attempt.Settles fun patience => router.multiGetWithin patience keys := by
  apply (Attempt.settles_await _).bind
  intro a
  apply (Attempt.Settles.const _).bind
  intro batches
  apply (Attempt.settles_joinAll _).bind
  intro parts
  exact .const _

/-- Once a write of several keys has an outcome, more patience makes no difference. -/
theorem settles_multiPutWithin (keys values : List String) :
    Attempt.Settles fun patience => router.multiPutWithin patience keys values := by
  by_cases hlength : keys.length = values.length
  · simp only [multiPutWithin, if_pos hlength, Functor.discard, map_const, Function.comp_apply,
      map_eq_pure_bind]
    apply (Attempt.settles_await _).bind
    intro a
    apply (Attempt.Settles.const _).bind
    intro batches
    exact (Attempt.settles_joinAll _).bind fun _ => .const _
  · simp only [multiPutWithin, if_neg hlength]
    exact .const _

end Router

end Keyspace
