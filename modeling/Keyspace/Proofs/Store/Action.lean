/-
# Running actions

What the pieces of an action do when it is started: every lemma here says which outcome
a step has and which state it leaves behind, so that a longer action is run step by step.
-/

import Mathlib
import Keyspace.Proofs.Running
import Keyspace.Store.Basic

namespace Keyspace.Action

variable {σ α β : Type} {s t : σ}

@[simp]
theorem start_pure (value : α) : (pure value : Action σ α).start s = (.ok value, s) := rfl

@[simp]
theorem start_get : (MonadState.get : Action σ σ).start s = (.ok s, s) := rfl

@[simp]
theorem start_modify (change : σ → σ) :
    (modify change : Action σ PUnit).start s = (.ok ⟨⟩, change s) := rfl

/-- A result is a success or a refusal. -/
@[simp]
theorem start_ofResult (result : KvResult α) :
    (ofResult result : Action σ α).start s = (result.mapError .refused, s) := by
  cases result <;> rfl

@[simp]
theorem start_ofStart (run : σ → Except Failure α × σ) : (ofStart run).start s = run s := rfl

/-- After a success the rest runs on the state left behind. -/
theorem start_bind_ok {action : Action σ α} {value : α} (h : action.start s = (.ok value, t))
    (next : α → Action σ β) : (action >>= next).start s = (next value).start t :=
  Running.run_bind_ok h next

/-- After a failure nothing else runs. -/
theorem start_bind_error {action : Action σ α} {failure : Failure}
    (h : action.start s = (.error failure, t)) (next : α → Action σ β) :
    (action >>= next).start s = (.error failure, t) :=
  Running.run_bind_error h next

/-- Mapping the result keeps failures and the state. -/
theorem start_map (f : α → β) (action : Action σ α) :
    (f <$> action).start s = ((action.start s).1.map f, (action.start s).2) :=
  Running.run_map f action

/-- A mapped result comes from a result. -/
theorem exists_of_start_map_ok {f : α → β} {action : Action σ α} {value : β}
    (h : (f <$> action).start s = (.ok value, t)) :
    ∃ result, action.start s = (.ok result, t) ∧ f result = value := by
  rw [start_map] at h
  cases haction : action.start s with
  | mk outcome after =>
      rw [haction] at h
      cases outcome with
      | error failure => cases h
      | ok result =>
          cases h
          exact ⟨result, rfl, rfl⟩

theorem start_ensuring {action : Action σ α} {outcome : Except Failure α}
    (h : action.start s = (outcome, t)) (change : σ → σ) :
    (action.ensuring change).start s = (outcome, change t) := by
  rw [ensuring, start_ofStart, h]

theorem start_onFailure_ok {action : Action σ α} {value : α} (h : action.start s = (.ok value, t))
    (change : σ → σ) : (action.onFailure change).start s = (.ok value, t) := by
  rw [onFailure, start_ofStart, h]

theorem start_onFailure_error {action : Action σ α} {failure : Failure}
    (h : action.start s = (.error failure, t)) (change : σ → σ) :
    (action.onFailure change).start s = (.error failure, change t) := by
  rw [onFailure, start_ofStart, h]

/-- A caught crash is a result. -/
theorem start_caught {action : Action σ α} {result : Except Fault α}
    (h : action.start s = (result.mapError .crashed, t)) :
    action.caught.start s = (.ok result, t) := by
  rw [caught, start_ofStart, h]
  cases result <;> rfl

/-- Reading item by item, without changing the state, is reading all of them at once. -/
theorem start_mapM {items : List α} {read : α → Action σ β} {result : α → KvResult β}
    (h : ∀ item ∈ items, (read item).start s = ((result item).mapError .refused, s)) :
    (items.mapM read).start s = ((items.mapM result).mapError .refused, s) := by
  rw [← mapM_mapError]
  exact Running.run_mapM h

end Keyspace.Action
