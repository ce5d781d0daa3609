/-
# Running calls

What the pieces of a call do when it is started on a state that answers at once. An
invariant of the state that every piece keeps is kept by the whole, however it ends.
-/

import Mathlib
import Keyspace.Proofs.Running
import Keyspace.Transport

namespace Keyspace.Call

variable {σ α β : Type} {s t : σ}

@[simp]
theorem start_pure (value : α) : (pure value : Call (StateM σ) α).start s = (.ok value, s) := rfl

/-- After a success the rest runs on the state left behind. -/
theorem start_bind_ok {call : Call (StateM σ) α} {value : α} (h : call.start s = (.ok value, t))
    (next : α → Call (StateM σ) β) : Call.start (call >>= next) s = (next value).start t :=
  Running.run_bind_ok h next

/-- After a failure nothing else runs. -/
theorem start_bind_error {call : Call (StateM σ) α} {error : KvError}
    (h : call.start s = (.error error, t)) (next : α → Call (StateM σ) β) :
    Call.start (call >>= next) s = (.error error, t) :=
  Running.run_bind_error h next

/-- Mapping the result keeps failures and the state. -/
theorem start_map (f : α → β) (call : Call (StateM σ) α) :
    Call.start (f <$> call) s = ((call.start s).1.map f, (call.start s).2) :=
  Running.run_map f call

theorem start_map_of_start {call : Call (StateM σ) α} {outcome : KvResult α}
    (h : call.start s = (outcome, t)) (f : α → β) :
    Call.start (f <$> call) s = (outcome.map f, t) := by
  rw [start_map, h]

/-- A handler has nothing to do after a success. -/
theorem start_tryCatch_ok {call : Call (StateM σ) α} {value : α}
    (h : call.start s = (.ok value, t)) (handler : KvError → Call (StateM σ) α) :
    Call.start (tryCatch call handler) s = (.ok value, t) := by
  unfold start at h ⊢
  rw [ExceptT.run_tryCatch, StateT.run_bind, h]
  rfl

/-- A handler takes over after a failure. -/
theorem start_tryCatch_error {call : Call (StateM σ) α} {error : KvError}
    (h : call.start s = (.error error, t)) (handler : KvError → Call (StateM σ) α) :
    Call.start (tryCatch call handler) s = (handler error).start t := by
  unfold start at h ⊢
  rw [ExceptT.run_tryCatch, StateT.run_bind, h]
  rfl

/-- Working on items for nothing but the effect is working on them and forgetting the results. -/
theorem forM_eq_map_mapM {m : Type → Type} [Monad m] [LawfulMonad m] {ι : Type} (items : List ι)
    (work : ι → Call m Unit) : items.forM work = (fun _ => ()) <$> items.mapM work := by
  induction items with
  | nil => simp
  | cons item items ih =>
      rw [List.mapM_cons, List.forM, ih]
      simp

/-- A result on its own is the outcome. -/
@[simp]
theorem start_liftM (result : KvResult α) :
    (liftM result : Call (StateM σ) α).start s = (result, s) := by
  cases result <;> rfl

/-- Working on items one after another, without changing the state, is working on all of them at
once. -/
theorem start_mapM {ι : Type} {items : List ι} {work : ι → Call (StateM σ) α}
    {result : ι → KvResult α} (h : ∀ item ∈ items, (work item).start s = (result item, s)) :
    (items.mapM work).start s = (items.mapM result, s) :=
  Running.run_mapM h

/-! ## Invariants -/

/-- Started where the invariant holds, the call keeps it, also if it fails, and what it returns is
as promised. -/
def Keeps (inv : σ → Prop) (call : Call (StateM σ) α) (promise : α → Prop) : Prop :=
  ∀ s, inv s → inv (call.start s).2 ∧ ∀ value, (call.start s).1 = .ok value → promise value

variable {inv : σ → Prop} {promise : α → Prop}

theorem Keeps.pure {value : α} (h : promise value) :
    (Pure.pure value : Call (StateM σ) α).Keeps inv promise := by
  intro s hs
  refine ⟨hs, ?_⟩
  rintro _ ⟨⟩
  exact h

theorem Keeps.liftM (result : KvResult α) :
    (MonadLiftT.monadLift result : Call (StateM σ) α).Keeps inv (result = .ok ·) := by
  intro s hs
  rw [show Call.start (MonadLiftT.monadLift result) s = (result, s) from start_liftM result]
  exact ⟨hs, fun _ => id⟩

/-- What follows a call starts where the invariant holds, with what the call promises. -/
theorem Keeps.bind {call : Call (StateM σ) α} {next : α → Call (StateM σ) β} {promised : β → Prop}
    (h : call.Keeps inv promise)
    (hnext : ∀ value, promise value → (next value).Keeps inv promised) :
    Keeps inv (call >>= next) promised := by
  intro s hs
  obtain ⟨ht, hvalue⟩ := h s hs
  cases hstart : call.start s with
  | mk outcome t =>
      rw [hstart] at ht hvalue
      cases outcome with
      | ok value =>
          rw [start_bind_ok hstart]
          exact hnext value (hvalue value rfl) t ht
      | error error =>
          rw [start_bind_error hstart]
          exact ⟨ht, nofun⟩

theorem Keeps.mapM {ι : Type} {items : List ι} {work : ι → Call (StateM σ) α}
    (h : ∀ item ∈ items, (work item).Keeps inv fun _ => True) :
    (items.mapM work).Keeps inv fun _ => True := by
  induction items with
  | nil => exact .pure trivial
  | cons item items ih =>
      rw [List.forall_mem_cons] at h
      rw [List.mapM_cons]
      exact h.1.bind fun _ _ => (ih h.2).bind fun _ _ => .pure trivial

/-- Working on items for nothing but the effect keeps what working on each of them keeps. -/
theorem Keeps.forM {ι : Type} {items : List ι} {work : ι → Call (StateM σ) Unit}
    (h : ∀ item ∈ items, (work item).Keeps inv fun _ => True) :
    (items.forM work).Keeps inv fun _ => True := by
  rw [forM_eq_map_mapM, map_eq_pure_bind]
  exact (Keeps.mapM h).bind fun _ _ => .pure trivial

end Keyspace.Call
